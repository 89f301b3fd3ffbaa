/-
# The chain machine

Seen from outside a session is a small machine: a list of frames, and whether it is
done. `Course.after` is what a reply makes of it, and a session can give only the
replies in `Course.Answers`. Each operation on a session whose two fields agree is a
move of that machine (`Session.Follows`).

Key definitions: `Course`, `Course.after`, `Course.Answers`, `replay`,
`Moment.Agrees`, `Session.Follows`.
Key theorems: `Session.follows_enterEntry` and its siblings,
`Request.answers_refused`.
-/
import CallChain.Proofs.Growth

namespace CallChain

/-- The chain machine: the frames recorded, oldest first, and whether the session has
completed. -/
structure Course where
  frames : List Frame
  done : Bool

namespace Course

def start : Course := ⟨[], false⟩

/-- What the machine is doing. -/
def phase (c : Course) : Phase :=
  if c.done then .matched else if c.frames.isEmpty then .idle else .inTarget

/-- What a reply makes of the machine, if the machine can take it. `results` are the
rendered values of the request's frame. -/
def after (c : Course) (results : List (Rendered Nat)) : (r : Request) → r.Reply → Option Course
  | .enterEntry _ m _, .ok () =>
    match c.frames with
    | [] => some { c with frames := [⟨m, results⟩] }
    | _ => none
  | .exitEntry _, .ok () =>
    match c.frames with
    | [_] => some { c with frames := [] }
    | _ => none
  | .enterCandidate _ m _, .ok true =>
    match c.frames with
    | [] => none
    | frames => some { c with frames := frames ++ [⟨m, results⟩] }
  | .exitCandidate _, .ok true =>
    match c.frames with
    | entry :: candidate :: rest => some { c with frames := (entry :: candidate :: rest).dropLast }
    | _ => none
  | .matchChain .., .ok _ => some { c with done := true }
  | .discover .., .ok _ => some { c with done := true }
  | _, _ => some c

/-- The replies that a request can get where the machine stands. Only a candidate
outside of a chain has two: it was ignored, or the chain was left while its values
were rendered. -/
def Answers (c : Course) (results : List (Rendered Nat)) : (r : Request) → r.Reply → Prop
  | .enterEntry .., reply =>
    reply = if c.done then .error .sessionComplete
      else if c.frames.isEmpty then .ok () else .error .alreadyInTarget
  | .exitEntry _, reply =>
    reply = if c.done then .error .sessionComplete else match c.frames with
      | [] => .error (.notInTarget "exit_entry_frame")
      | [_] => .ok ()
      | _ :: candidates => .error (.unbalanced candidates.length)
  | .enterCandidate .., reply =>
    if c.done then reply = .error .sessionComplete
    else if c.frames.isEmpty then
      reply = .ok false ∨ reply = .error (.notInTarget "enter_candidate_frame")
    else reply = .ok true
  | .exitCandidate _, reply =>
    reply = if c.done then .error .sessionComplete else match c.frames with
      | [] => .ok false
      | [_] => .error .noCandidate
      | _ => .ok true
  | .matchChain _ m _, reply =>
    reply = if c.done then .error .sessionComplete
      else .ok (.matching (c.frames ++ [⟨m, results⟩]))
  | .discover .., reply =>
    if c.done then reply = .error .sessionComplete else ∃ walk, reply = .ok (.discovering walk)
  | .frames _, reply => reply = c.frames
  | .look _, reply =>
    reply.phase = c.phase ∧ reply.depth = c.frames.length ∧ (reply.inTarget = true ↔ c.frames ≠ [])
  | _, _ => True

end Course

/-- The rendered values of the frame that was captured last. -/
def lastResults : List Event → List (Rendered Nat)
  | .captured _ _ :: .rendered _ _ results :: _ => results
  | _ => []

/-- The machine of a session after what a journal tells, latest first. -/
def replay (s : Nat) : List Event → Option Course
  | [] => some .start
  | .returned r reply _ :: earlier =>
    (replay s earlier).bind fun c =>
      if r.session? = some s then c.after (lastResults earlier) r reply else some c
  | _ :: earlier => replay s earlier

/-- A session stands as a machine does, in all that can be seen of it. -/
structure Moment.Agrees (m : Moment) (s : Nat) (c : Course) : Prop where
  frames : (m.session s).chain.frames = c.frames
  depth : (m.session s).chain.depth = c.frames.length
  inTarget : (m.session s).chain.inTarget = true ↔ c.frames ≠ []
  phase : (m.session s).phase = c.phase

/-! ### One session, one request

Each operation on a session is a move of the machine of that session, and its reply
is one that the machine can give. -/

namespace Session

/-- The machine that a session is. -/
def course (s : Session) : Course :=
  ⟨s.chain.frames, s.complete⟩

/-- A step on a session, refused when the session is complete. -/
def attempt {β : Type} (s : Session) (step : Session → Except Fault (β × Session)) :
    Except Fault β × Session :=
  if s.complete then (.error .sessionComplete, s)
  else match step s with
    | .error fault => (.error fault, s)
    | .ok stepped => (.ok stepped.1, stepped.2)

/-- A request turned a session into another one as the machine does. -/
structure Follows (s : Session) (results : List (Rendered Nat)) (r : Request) (reply : r.Reply)
    (t : Session) : Prop where
  move : s.course.after results r reply = some t.course
  inStep : t.chain.InStep
  answer : s.course.Answers results r reply

theorem follows_enterEntry {s : Session} (h : s.chain.InStep) (n : Nat) (m : Method) (vs : List Value)
    (results : List (Rendered Nat)) :
    s.Follows results (.enterEntry n m vs) (s.attempt (enterEntry ⟨m, results⟩)).1
      (s.attempt (enterEntry ⟨m, results⟩)).2 := by
  obtain ⟨registry, chain, complete, outlet⟩ := s
  cases complete with
  | true => exact ⟨rfl, h, rfl⟩
  | false =>
    rcases h.cases with rfl | ⟨entry, rest, rfl⟩
    · exact ⟨rfl, Chain.inStep_of_enter (rfl : Chain.empty.enter ⟨m, results⟩ = _), rfl⟩
    · exact ⟨rfl, h, rfl⟩

theorem follows_exitEntry {s : Session} (h : s.chain.InStep) (n : Nat) (results : List (Rendered Nat)) :
    s.Follows results (.exitEntry n) (s.attempt exitEntry).1 (s.attempt exitEntry).2 := by
  obtain ⟨registry, chain, complete, outlet⟩ := s
  cases complete with
  | true => exact ⟨rfl, h, rfl⟩
  | false =>
    rcases h.cases with rfl | ⟨entry, rest, rfl⟩
    · exact ⟨rfl, h, rfl⟩
    · cases rest with
      | nil => exact ⟨rfl, Chain.inStep_of_leave (c := ⟨[entry], true⟩) rfl, rfl⟩
      | cons candidate others => exact ⟨rfl, h, rfl⟩

theorem follows_enterCandidate {s : Session} (h : s.chain.InStep) (n : Nat) (m : Method) (vs : List Value)
    (results : List (Rendered Nat)) :
    s.Follows results (.enterCandidate n m vs) (s.attempt (enterCandidate ⟨m, results⟩)).1
      (s.attempt (enterCandidate ⟨m, results⟩)).2 := by
  obtain ⟨registry, chain, complete, outlet⟩ := s
  cases complete with
  | true => exact ⟨rfl, h, rfl⟩
  | false =>
    rcases h.cases with rfl | ⟨entry, rest, rfl⟩
    · exact ⟨rfl, h, .inr rfl⟩
    · exact ⟨rfl, Chain.inStep_of_push (rfl : Chain.push ⟨entry :: rest, true⟩ ⟨m, results⟩ = _), rfl⟩

theorem follows_exitCandidate {s : Session} (h : s.chain.InStep) (n : Nat) (results : List (Rendered Nat)) :
    s.Follows results (.exitCandidate n) (s.attempt exitCandidate).1 (s.attempt exitCandidate).2 := by
  obtain ⟨registry, chain, complete, outlet⟩ := s
  cases complete with
  | true => exact ⟨rfl, h, rfl⟩
  | false =>
    rcases h.cases with rfl | ⟨entry, rest, rfl⟩
    · exact ⟨rfl, h, rfl⟩
    · cases rest with
      | nil => exact ⟨rfl, h, rfl⟩
      | cons candidate others =>
        exact ⟨rfl, Chain.inStep_of_pop (c := ⟨entry :: candidate :: others, true⟩) rfl, rfl⟩

theorem follows_matchChain {s : Session} (h : s.chain.InStep) (n : Nat) (m : Method) (vs : List Value)
    (results : List (Rendered Nat)) :
    s.Follows results (.matchChain n m vs) (s.attempt (matchChain ⟨m, results⟩)).1
      (s.attempt (matchChain ⟨m, results⟩)).2 := by
  obtain ⟨registry, chain, complete, outlet⟩ := s
  cases complete with
  | true => exact ⟨rfl, h, rfl⟩
  | false => exact ⟨rfl, h, rfl⟩

theorem follows_discover {s : Session} (h : s.chain.InStep) (n : Nat) (offered : List String)
    (results : List (Rendered Nat)) :
    s.Follows results (.discover n offered) (s.attempt (discover offered)).1
      (s.attempt (discover offered)).2 := by
  obtain ⟨registry, chain, complete, outlet⟩ := s
  cases complete with
  | true => exact ⟨rfl, h, rfl⟩
  | false => exact ⟨rfl, h, ⟨_, rfl⟩⟩

end Session

/-- A session whose two fields agree stands as its own machine. -/
theorem Moment.agrees_course {m : Moment} {s : Nat} (h : (m.session s).chain.InStep) :
    m.Agrees s (m.session s).course where
  frames := rfl
  depth := rfl
  inTarget := h
  phase := by
    generalize m.session s = session at h
    obtain ⟨registry, chain, complete, outlet⟩ := session
    cases complete with
    | true => rfl
    | false => rcases h.cases with rfl | ⟨entry, rest, rfl⟩ <;> rfl

/-- A request that is refused before its values are rendered moves no machine. -/
theorem Request.after_refused {r : Request} {m : Moment} {reply : r.Reply}
    (hreply : r.refusal? m = some reply) (c : Course) (results : List (Rendered Nat)) :
    c.after results r reply = some c := by
  cases r with
  | enterEntry s f vs | matchChain s f vs =>
    simp only [refusal?] at hreply
    split at hreply <;> cases hreply
    rfl
  | enterCandidate s f vs =>
    simp only [refusal?] at hreply
    split at hreply
    · cases hreply
      rfl
    · split at hreply <;> cases hreply
      rfl
  | _ => cases hreply

/-- Such a refusal is what the machine of the session answers. -/
theorem Request.answers_refused {r : Request} {m : Moment} {reply : r.Reply} {s : Nat}
    (hr : r.session? = some s) (hreply : r.refusal? m = some reply) (h : (m.session s).chain.InStep)
    (results : List (Rendered Nat)) : (m.session s).course.Answers results r reply := by
  generalize hsession : m.session s = session at h ⊢
  obtain ⟨registry, chain, complete, outlet⟩ := session
  cases r with
  | enterEntry s' f vs | matchChain s' f vs =>
    obtain rfl : s' = s := Option.some.inj hr
    cases complete <;> simp only [refusal?, hsession] at hreply <;> cases hreply
    rfl
  | enterCandidate s' f vs =>
    obtain rfl : s' = s := Option.some.inj hr
    cases complete with
    | true =>
      simp only [refusal?, hsession] at hreply
      cases hreply
      rfl
    | false =>
      rcases h.cases with rfl | ⟨entry, rest, rfl⟩ <;> simp only [refusal?, hsession] at hreply <;>
        cases hreply
      exact .inl rfl
  | _ => cases hreply

end CallChain
