/-
# Balanced candidates

Host code is balanced on a session when it leaves every candidate that it enters, and each
object that is asked on the way does so as well before it answers. To the session only the
order matters in which the requests return, not how they nest, because it is read again
when the values of a request have been rendered. In that order balanced traffic is a Dyck
word (`Nested.balanced`), and that is all that is asked for here.

While such a word goes on, the session has as many candidates on top of the chain that it
had as are open, and each request is answered by whether a chain is active.

Key definitions: `openCandidates`, `Balanced`, `Nested`, `Session.Raised`, `Session.Unseen`.
Key theorems: `Nested.balanced`, `Session.Raised.enter`, `Session.Raised.exit`,
`Session.unseen_rule`.
-/
import CallChain.Proofs.Turns

namespace CallChain

/-! ### Balanced traffic -/

/-- What a request is to the candidates of a session. -/
inductive Move where
  | enter
  | exit
  /-- it changes the session in another way -/
  | other

/-- What a request is to the candidates of session `s`, if it may change the session. -/
def Request.move? (s : Nat) : Request → Option Move
  | .enterCandidate t _ _ => if t = s then some .enter else none
  | .exitCandidate t => if t = s then some .exit else none
  | .enterEntry t _ _ | .exitEntry t | .matchChain t _ _ | .discover t _ =>
    if t = s then some .other else none
  | _ => none

/-- The number of open candidates after a move, unless there is none to leave. -/
def Move.count : Move → Nat → Option Nat
  | .enter, n => some (n + 1)
  | .exit, n + 1 => some n
  | _, _ => none

/-- The candidates of session `s` that are open after a journal. There is no such number
when one was left more than was entered, or the session was changed in another way. -/
def openCandidates (s : Nat) : List Event → Option Nat
  | [] => some 0
  | .returned r _ _ :: earlier => (openCandidates s earlier).bind fun n =>
    match r.move? s with
    | some move => move.count n
    | none => some n
  | _ :: earlier => openCandidates s earlier

/-- The requests about candidates of session `s` in a journal, in the order in which they
returned, are a Dyck word: never more are left than were entered, and in the end as many. -/
def Balanced (s : Nat) (j : List Event) : Prop :=
  openCandidates s j = some 0

/-- The open candidates counted apart for each piece of host code that is running, the
innermost first. An object that is asked begins without one, and has none when it answers. -/
def nestedCandidates (s : Nat) : List Event → Option (List Nat)
  | [] => some [0]
  | .asked _ :: earlier => (nestedCandidates s earlier).map (0 :: ·)
  | .answered _ _ :: earlier => (nestedCandidates s earlier).bind fun counts =>
    match counts with
    | 0 :: outer => some outer
    | _ => none
  | .returned r _ _ :: earlier => (nestedCandidates s earlier).bind fun counts =>
    match r.move? s, counts with
    | some move, n :: outer => (move.count n).map (· :: outer)
    | some _, [] => none
    | none, counts => some counts
  | _ :: earlier => nestedCandidates s earlier

/-- Each piece of host code has left the candidates that it entered, and no others. -/
def Nested (s : Nat) (j : List Event) : Prop :=
  nestedCandidates s j = some [0]

instance (s : Nat) (j : List Event) : Decidable (Balanced s j) :=
  inferInstanceAs (Decidable (_ = _))

instance (s : Nat) (j : List Event) : Decidable (Nested s j) :=
  inferInstanceAs (Decidable (_ = _))

theorem Move.count_total {move : Move} {n n' : Nat} (h : move.count n = some n') (rest : Nat) :
    move.count (n + rest) = some (n' + rest) := by
  match move, n with
  | .enter, n =>
    cases h
    rw [Nat.add_right_comm]
    rfl
  | .exit, n + 1 =>
    cases h
    rw [Nat.add_right_comm]
    rfl

/-- Counted apart or together, as many candidates are open. -/
theorem openCandidates_of_nested {s : Nat} : ∀ {j : List Event} {counts : List Nat},
    nestedCandidates s j = some counts → openCandidates s j = some (counts.foldr (· + ·) 0)
  | [], _, h => by
    cases h
    rfl
  | .asked o :: j, counts, h => by
    obtain ⟨counts', h', rfl⟩ := Option.map_eq_some_iff.1 h
    have hj := openCandidates_of_nested h'
    rw [List.foldr_cons, Nat.zero_add]
    exact hj
  | .answered o answer :: j, counts, h => by
    obtain ⟨counts', h', hcounts⟩ := Option.bind_eq_some_iff.1 h
    match counts' with
    | 0 :: outer =>
      cases hcounts
      have hj := openCandidates_of_nested h'
      rwa [List.foldr_cons, Nat.zero_add] at hj
    | [] | (n + 1) :: outer => cases hcounts
  | .returned r reply m :: j, counts, h => by
    obtain ⟨counts', h', hcounts⟩ := Option.bind_eq_some_iff.1 h
    simp only [openCandidates, openCandidates_of_nested h', Option.bind_some]
    cases hmove : r.move? s with
    | none =>
      rw [hmove] at hcounts
      cases hcounts
      rfl
    | some move =>
      rw [hmove] at hcounts
      cases counts' with
      | nil => cases hcounts
      | cons n outer =>
        obtain ⟨n', hn', rfl⟩ := Option.map_eq_some_iff.1 hcounts
        exact Move.count_total hn' _
  | .tagged _ _ _ :: j, _, h | .rendered _ _ _ :: j, _, h | .captured _ _ :: j, _, h
  | .released _ _ :: j, _, h => openCandidates_of_nested (j := j) h

/-- Traffic that is balanced in each piece of host code is balanced. -/
theorem Nested.balanced {s : Nat} {j : List Event} (h : Nested s j) : Balanced s j :=
  openCandidates_of_nested h

theorem openCandidates_note {e : Event} (he : e.isReturn = false) (s : Nat) (j : List Event) :
    openCandidates s (e :: j) = openCandidates s j := by
  cases e with
  | returned r reply m => cases he
  | _ => rfl

theorem Request.move?_of_aside {r : Request} {s : Nat} (h : r.session? ≠ some s) : r.move? s = none := by
  cases r with
  | enterEntry t m vs | exitEntry t | enterCandidate t m vs | exitCandidate t | matchChain t m vs
  | discover t offered => exact if_neg fun ht => h (congrArg some ht)
  | _ => rfl

/-- What a journal has come to was counted at every earlier point. -/
theorem openCandidates_of_append {s : Nat} {earlier : List Event} : ∀ {later : List Event} {n : Nat},
    openCandidates s (later ++ earlier) = some n → ∃ k, openCandidates s earlier = some k
  | [], n, h => ⟨n, h⟩
  | .returned r reply m :: later, n, h => by
    obtain ⟨n', h', -⟩ := Option.bind_eq_some_iff.1 h
    exact openCandidates_of_append h'
  | .asked _ :: later, _, h | .answered _ _ :: later, _, h | .tagged _ _ _ :: later, _, h
  | .rendered _ _ _ :: later, _, h | .captured _ _ :: later, _, h | .released _ _ :: later, _, h => by
    have hlater : openCandidates s (later ++ earlier) = some _ := h
    exact openCandidates_of_append hlater

/-- Every request about a candidate of session `s` was answered by `b`. -/
structure CandidatesTold (s : Nat) (b : Bool) (j : List Event) : Prop where
  enter : ∀ (m : Method) (vs : List Value) (reply : Except Fault Bool) (after : Moment),
    .returned (.enterCandidate s m vs) reply after ∈ j → reply = .ok b
  exit : ∀ (reply : Except Fault Bool) (after : Moment), .returned (.exitCandidate s) reply after ∈ j →
    reply = .ok b

theorem candidatesTold_nil (s : Nat) (b : Bool) : CandidatesTold s b [] :=
  ⟨nofun, nofun⟩

theorem CandidatesTold.cons {s : Nat} {b : Bool} {j : List Event} {e : Event}
    (henter : ∀ m vs reply after, e = .returned (.enterCandidate s m vs) reply after → reply = .ok b)
    (hexit : ∀ reply after, e = .returned (.exitCandidate s) reply after → reply = .ok b)
    (h : CandidatesTold s b j) : CandidatesTold s b (e :: j) where
  enter m vs reply after hmem := by
    rcases List.mem_cons.1 hmem with he | hmem
    · exact henter m vs reply after he.symm
    · exact h.enter m vs reply after hmem
  exit reply after hmem := by
    rcases List.mem_cons.1 hmem with he | hmem
    · exact hexit reply after he.symm
    · exact h.exit reply after hmem

/-! ### A session with candidates on top -/

namespace Session

/-- The session `base` with `n` candidates more, or as it is where no chain is active. -/
def Raised (base : Session) (n : Nat) (x : Session) : Prop :=
  ∃ candidates : List Frame, candidates.length = (if base.chain.inTarget then n else 0) ∧
    x = { base with chain := ⟨base.chain.frames ++ candidates, base.chain.inTarget⟩ }

variable {base x t : Session} {n : Nat}

theorem raised_self (base : Session) : base.Raised 0 base :=
  ⟨[], by simp, by simp⟩

theorem Raised.eq (h : base.Raised 0 x) : x = base := by
  obtain ⟨candidates, hlength, rfl⟩ := h
  have hnone : candidates = [] := by
    apply List.eq_nil_of_length_eq_zero
    rw [hlength, ite_self]
  rw [hnone, List.append_nil]

theorem Raised.inTarget (h : base.Raised n x) : x.chain.inTarget = base.chain.inTarget := by
  obtain ⟨candidates, -, rfl⟩ := h
  rfl

theorem Raised.live (h : base.Raised n x) : x.complete = base.complete := by
  obtain ⟨candidates, -, rfl⟩ := h
  rfl

/-- Where no chain is active the count does not matter. -/
theorem Raised.idle (hout : base.chain.inTarget = false) (h : base.Raised n x) (k : Nat) : base.Raised k x := by
  obtain ⟨candidates, hlength, rfl⟩ := h
  refine ⟨candidates, ?_, rfl⟩
  rw [hlength, hout]
  rfl

/-- A candidate is recorded on top. -/
theorem Raised.enter (hlive : base.complete = false) (hin : base.chain.inTarget = true) (h : base.Raised n x)
    {f : Frame} {reply : Except Fault Bool} (hattempt : x.attempt (enterCandidate f) = (reply, t)) :
    reply = .ok true ∧ base.Raised (n + 1) t := by
  obtain ⟨candidates, hlength, rfl⟩ := h
  have hresult : attempt { base with chain := ⟨base.chain.frames ++ candidates, base.chain.inTarget⟩ }
      (enterCandidate f) =
      (.ok true, { base with chain := ⟨base.chain.frames ++ candidates ++ [f], base.chain.inTarget⟩ }) := by
    simp [attempt, enterCandidate, Chain.push, hlive, hin]
    rfl
  rw [hresult] at hattempt
  cases hattempt
  refine ⟨rfl, candidates ++ [f], ?_, by rw [List.append_assoc]⟩
  rw [List.length_append, hlength, hin]
  rfl

/-- The candidate on top is discarded. -/
theorem Raised.exit (hlive : base.complete = false) (hstep : base.chain.InStep) (h : base.Raised (n + 1) x)
    {reply : Except Fault Bool} (hattempt : x.attempt exitCandidate = (reply, t)) :
    reply = .ok base.chain.inTarget ∧ base.Raised n t := by
  by_cases hin : base.chain.inTarget = true
  · obtain ⟨candidates, hlength, rfl⟩ := h
    rw [if_pos hin] at hlength
    obtain ⟨registry, ⟨frames, active⟩, complete, outlet⟩ := base
    obtain rfl : active = true := hin
    obtain rfl : complete = false := hlive
    obtain ⟨before, last, rfl⟩ : ∃ before last, candidates = before ++ [last] :=
      ⟨_, _, (List.dropLast_concat_getLast (List.ne_nil_of_length_pos (by omega))).symm⟩
    -- what is popped is the candidate that was pushed last
    have hpop : Chain.pop ⟨frames ++ (before ++ [last]), true⟩ = .ok (last, ⟨frames ++ before, true⟩) := by
      have hbefore : Chain.InStep ⟨frames ++ before, true⟩ :=
        ⟨fun _ => List.append_ne_nil_of_left_ne_nil (hstep.1 rfl) _, fun _ => rfl⟩
      rw [← List.append_assoc]
      exact Chain.pop_of_push hbefore rfl
    have hresult : attempt ⟨registry, ⟨frames ++ (before ++ [last]), true⟩, false, outlet⟩ exitCandidate =
        (.ok true, ⟨registry, ⟨frames ++ before, true⟩, false, outlet⟩) := by
      simp [attempt, exitCandidate, hpop, Except.map]
    rw [hresult] at hattempt
    cases hattempt
    rw [List.length_append, List.length_singleton] at hlength
    refine ⟨rfl, before, ?_, rfl⟩
    rw [if_pos rfl]
    omega
  · have hout : base.chain.inTarget = false := by simpa using hin
    have hresult : x.attempt exitCandidate = (.ok false, x) := by
      simp [attempt, exitCandidate, h.live, hlive, h.inTarget, hout]
    rw [hresult] at hattempt
    cases hattempt
    exact ⟨by rw [hout], h.idle hout n⟩

/-! ### What a session shows while the traffic goes on -/

/-- The session stood as `base` after the journal `before`. As far as its candidates can be
counted since then, it has the open ones on top, and each request about a candidate was
answered by whether a chain is active. -/
def Unseen (s : Nat) (base : Session) (before j : List Event) (x : Session) : Prop :=
  ∃ new, j = new ++ before ∧ ∀ n, openCandidates s new = some n →
    base.Raised n x ∧ CandidatesTold s base.chain.inTarget new

namespace Unseen

variable {s : Nat} {before j : List Event}

theorem self (s : Nat) (base : Session) (before : List Event) : Unseen s base before before base := by
  refine ⟨[], rfl, fun n hn => ?_⟩
  obtain rfl : 0 = n := Option.some.inj hn
  exact ⟨raised_self base, candidatesTold_nil _ _⟩

/-- Something that is not the return of a request about a candidate. -/
theorem quiet {e : Event} (hopen : ∀ new, openCandidates s (e :: new) = openCandidates s new)
    (henter : ∀ m vs reply after, e ≠ .returned (.enterCandidate s m vs) reply after)
    (hexit : ∀ reply after, e ≠ .returned (.exitCandidate s) reply after) (h : Unseen s base before j x) :
    Unseen s base before (e :: j) x := by
  obtain ⟨new, rfl, hnew⟩ := h
  refine ⟨e :: new, rfl, fun n hn => ?_⟩
  rw [hopen] at hn
  obtain ⟨hraised, htold⟩ := hnew n hn
  exact ⟨hraised, htold.cons (fun m vs reply after he => absurd he (henter m vs reply after))
    (fun reply after he => absurd he (hexit reply after))⟩

theorem note {e : Event} (he : e.isReturn = false) (h : Unseen s base before j x) :
    Unseen s base before (e :: j) x := by
  refine h.quiet (openCandidates_note he s) ?_ ?_
  · rintro m vs reply after rfl
    cases he
  · rintro reply after rfl
    cases he

/-- A request that is no move of the session. -/
theorem aside {r : Request} {reply : r.Reply} {m : Moment} (hmove : r.move? s = none)
    (h : Unseen s base before j x) : Unseen s base before (.returned r reply m :: j) x := by
  refine h.quiet (fun new => ?_) ?_ ?_
  · simp only [openCandidates, hmove, Option.bind_fun_some]
  · intro f vs reply' after he
    cases he
    rw [Request.move?, if_pos rfl] at hmove
    cases hmove
  · intro reply' after he
    cases he
    rw [Request.move?, if_pos rfl] at hmove
    cases hmove

/-- A move that is not counted ends the count. -/
theorem other {r : Request} {reply : r.Reply} {m : Moment} (hmove : r.move? s = some .other)
    (h : Unseen s base before j x) : Unseen s base before (.returned r reply m :: j) t := by
  obtain ⟨new, rfl, -⟩ := h
  refine ⟨.returned r reply m :: new, rfl, fun n hn => ?_⟩
  obtain ⟨k, -, hk⟩ := Option.bind_eq_some_iff.1 hn
  rw [hmove] at hk
  cases hk

/-- At an earlier point of the traffic a chain was active just as it is now. -/
theorem begun {earlier : List Event} {y : Session} (hsuffix : earlier <:+ j)
    (hy : Unseen s base before earlier y) {new : List Event} (hj : j = new ++ before) {n : Nat}
    (hn : openCandidates s new = some n) :
    y.complete = base.complete ∧ y.chain.inTarget = base.chain.inTarget := by
  obtain ⟨first, rfl, hfirst⟩ := hy
  obtain ⟨later, rfl⟩ := hsuffix
  rw [← List.append_assoc] at hj
  obtain rfl := List.append_cancel_right hj
  obtain ⟨k, hk⟩ := openCandidates_of_append hn
  obtain ⟨hraised, -⟩ := hfirst k hk
  exact ⟨hraised.live, hraised.inTarget⟩

/-- A candidate is entered: it is recorded on top, if a chain is active. -/
theorem enter {m : Method} {vs : List Value} {reply : Except Fault Bool} {after : Moment}
    (hlive : base.complete = false)
    (hresolved : Resolved (fun k j y => k = s → Unseen s base before j y) s j x
      (.enterCandidate s m vs) reply t)
    (h : Unseen s base before j x) :
    Unseen s base before (.returned (.enterCandidate s m vs) reply after :: j) t := by
  obtain ⟨new, hj, hnew⟩ := h
  refine ⟨.returned (.enterCandidate s m vs) reply after :: new, by rw [hj]; rfl, fun n hn => ?_⟩
  obtain ⟨k, hk, hcount⟩ := Option.bind_eq_some_iff.1 hn
  obtain ⟨hraised, htold⟩ := hnew k hk
  have hmove : (Request.enterCandidate s m vs).move? s = some .enter := if_pos rfl
  rw [hmove] at hcount
  obtain rfl : k + 1 = n := Option.some.inj hcount
  have hresult : reply = .ok base.chain.inTarget ∧ base.Raised (k + 1) t := by
    cases hresolved with
    | refused hrefuses =>
      rcases hrefuses with ⟨hcomplete, -⟩ | ⟨-, hout, hreply⟩
      · rw [hraised.live, hlive] at hcomplete
        cases hcomplete
      · rw [hraised.inTarget] at hout
        rw [hout]
        exact ⟨hreply, hraised.idle hout (k + 1)⟩
    | turned hsuffix hgood hadmitted hturns =>
      by_cases hin : base.chain.inTarget = true
      · obtain ⟨f, -, hattempt⟩ := hturns
        rw [hin]
        exact hraised.enter hlive hin hattempt
      · -- the request would have been refused when it began
        obtain ⟨hcomplete, hout⟩ := (hgood rfl).begun hsuffix hj hk
        refine absurd ?_ (hadmitted (.ok false))
        exact .inr ⟨hcomplete.trans hlive, hout.trans (by simpa using hin), rfl⟩
  obtain ⟨hreply, hraised'⟩ := hresult
  refine ⟨hraised', htold.cons (fun m' vs' reply' after' he => ?_) nofun⟩
  cases he
  exact hreply

/-- A candidate is left that is open. -/
theorem exit {reply : Except Fault Bool} {after : Moment} (hlive : base.complete = false)
    (hstep : base.chain.InStep) (hattempt : x.attempt exitCandidate = (reply, t))
    (h : Unseen s base before j x) :
    Unseen s base before (.returned (.exitCandidate s) reply after :: j) t := by
  obtain ⟨new, rfl, hnew⟩ := h
  refine ⟨.returned (.exitCandidate s) reply after :: new, rfl, fun n hn => ?_⟩
  obtain ⟨k, hk, hcount⟩ := Option.bind_eq_some_iff.1 hn
  obtain ⟨hraised, htold⟩ := hnew k hk
  have hmove : (Request.exitCandidate s).move? s = some .exit := if_pos rfl
  rw [hmove] at hcount
  cases k with
  | zero => cases hcount
  | succ k =>
    obtain rfl : k = n := Option.some.inj hcount
    obtain ⟨hreply, hraised'⟩ := hraised.exit hlive hstep hattempt
    refine ⟨hraised', htold.cons nofun fun reply' after' he => ?_⟩
    cases he
    exact hreply

end Unseen

/-- Each turn of a live session keeps the traffic unseen. -/
theorem unseen_rule (s : Nat) (before : List Event) (hlive : base.complete = false)
    (hstep : base.chain.InStep) : Rule fun k j x => k = s → Unseen s base before j x where
  note he h hk := (h hk).note he
  aside hr _ h hk := by
    subst hk
    exact (h rfl).aside (Request.move?_of_aside hr)
  turn {k j x t r reply m} hr _ hresolved h hk := by
    subst hk
    cases r with
    | enterCandidate s' f vs =>
      obtain rfl : s' = k := Option.some.inj hr
      exact (h rfl).enter hlive hresolved
    | exitCandidate s' =>
      obtain rfl : s' = k := Option.some.inj hr
      cases hresolved with
      | refused hrefuses => exact hrefuses.elim
      | turned _ _ _ hturns => exact (h rfl).exit hlive hstep hturns
    | enterEntry s' f vs | exitEntry s' | matchChain s' f vs | discover s' offered =>
      exact (h rfl).other (if_pos (Option.some.inj hr))
    | _ =>
      cases hresolved with
      | refused hrefuses => exact hrefuses.elim
      | turned _ _ _ hturns =>
        obtain rfl : t = x := hturns
        exact (h rfl).aside rfl
  opened n h hk := by
    obtain ⟨new, hj, hnew⟩ := h hk
    refine ⟨new, hj, fun n hn => ?_⟩
    -- a session that refuses everything is not the live one with candidates on top
    have hclosed := (hnew n hn).1.live
    rw [hlive] at hclosed
    cases hclosed

end Session

end CallChain
