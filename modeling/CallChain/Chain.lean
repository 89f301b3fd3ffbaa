/-
# The chain being captured

The frames of the target chain seen so far, oldest first, and whether a chain is
active. It is active exactly when there is a frame, and then the oldest frame is
the entry frame. An operation keeps that, or fails and changes nothing.

Key definitions: `Chain`, `Chain.enter`, `Chain.leave`, `Chain.push`,
`Chain.pop`, `Chain.snapshot`, `Chain.InStep`.
Key theorems: `Chain.inStep_of_enter`, `Chain.inStep_of_leave`,
`Chain.inStep_of_push`, `Chain.inStep_of_pop`, `Chain.frames_of_pop`,
`Chain.pop_of_push`.
-/
import CallChain.Fault
import CallChain.Frame

namespace CallChain

/-- The chain being captured. -/
structure Chain where
  /-- the recorded frames, oldest first -/
  frames : List Frame
  /-- whether an entry frame is on the chain -/
  inTarget : Bool

namespace Chain

/-- No chain is active. -/
def empty : Chain := ⟨[], false⟩

instance : Inhabited Chain := ⟨empty⟩

/-- The number of recorded frames. -/
def depth (c : Chain) : Nat :=
  c.frames.length

/-- The youngest frame. -/
def top? (c : Chain) : Option Frame :=
  c.frames.getLast?

/-- Records the entry frame. -/
def enter (c : Chain) (entry : Frame) : Except Fault Chain :=
  if c.inTarget then .error .alreadyInTarget
  else .ok ⟨c.frames ++ [entry], true⟩

/-- Removes the entry frame. Its call can only return after every call it made,
so no candidate may be recorded. -/
def leave (c : Chain) : Except Fault (Frame × Chain) :=
  if !c.inTarget then .error (.notInTarget "exit_entry_frame")
  else match c.frames with
    | [] => .error (.notInTarget "exit_entry_frame")
    | [entry] => .ok (entry, ⟨[], false⟩)
    | _ :: candidates => .error (.unbalanced candidates.length)

/-- Records a candidate frame. -/
def push (c : Chain) (candidate : Frame) : Except Fault Chain :=
  if !c.inTarget then .error (.notInTarget "enter_candidate_frame")
  else .ok ⟨c.frames ++ [candidate], c.inTarget⟩

/-- Discards the youngest candidate frame. -/
def pop (c : Chain) : Except Fault (Frame × Chain) :=
  if !c.inTarget then .error (.notInTarget "exit_candidate_frame")
  else match c.frames with
    | entry :: candidate :: rest =>
      .ok ((candidate :: rest).getLast (by simp), ⟨entry :: (candidate :: rest).dropLast, c.inTarget⟩)
    | _ => .error .noCandidate

/-- The recorded frames followed by the terminal one. -/
def snapshot (c : Chain) (terminal : Frame) : List Frame :=
  c.frames ++ [terminal]

/-! ### The two fields agree -/

/-- A chain is active exactly when a frame is recorded. -/
def InStep (c : Chain) : Prop :=
  c.inTarget = true ↔ c.frames ≠ []

theorem inStep_empty : empty.InStep := by
  simp [InStep, empty]

/-- A chain whose fields agree is empty, or active with an entry frame. -/
theorem InStep.cases {c : Chain} (h : c.InStep) :
    c = empty ∨ ∃ entry rest, c = ⟨entry :: rest, true⟩ := by
  obtain ⟨frames, active⟩ := c
  cases frames with
  | nil =>
    have hactive : active = false := by simpa [InStep] using h
    exact .inl (by rw [hactive]; rfl)
  | cons entry rest =>
    have hactive : active = true := h.2 (List.cons_ne_nil _ _)
    exact .inr ⟨entry, rest, by rw [hactive]⟩

/-- After an entry the chain is active and holds the entry frame. -/
theorem inStep_of_enter {c entered : Chain} {entry : Frame} (h : c.enter entry = .ok entered) :
    entered.InStep := by
  unfold enter at h
  split at h
  · cases h
  · cases h
    simp [InStep]

theorem frames_of_enter {c entered : Chain} {entry : Frame} (h : c.enter entry = .ok entered) :
    entered.frames = c.frames ++ [entry] := by
  unfold enter at h
  split at h <;> cases h
  rfl

/-- When the entry frame is left nothing remains. -/
theorem eq_empty_of_leave {c left : Chain} {entry : Frame} (h : c.leave = .ok (entry, left)) :
    left = empty := by
  unfold leave at h
  split at h
  · cases h
  · split at h <;> cases h
    rfl

theorem inStep_of_leave {c left : Chain} {entry : Frame} (h : c.leave = .ok (entry, left)) :
    left.InStep := by
  rw [eq_empty_of_leave h]
  exact inStep_empty

theorem inStep_of_push {c pushed : Chain} {candidate : Frame} (h : c.push candidate = .ok pushed) :
    pushed.InStep := by
  unfold push at h
  split at h
  · cases h
  · rename_i active
    cases h
    simpa [InStep] using active

theorem frames_of_push {c pushed : Chain} {candidate : Frame} (h : c.push candidate = .ok pushed) :
    pushed.frames = c.frames ++ [candidate] := by
  unfold push at h
  split at h <;> cases h
  rfl

theorem inStep_of_pop {c popped : Chain} {candidate : Frame} (h : c.pop = .ok (candidate, popped)) :
    popped.InStep := by
  unfold pop at h
  split at h
  · cases h
  · rename_i active
    split at h <;> cases h
    simpa [InStep] using active

theorem frames_of_pop {c popped : Chain} {candidate : Frame} (h : c.pop = .ok (candidate, popped)) :
    popped.frames = c.frames.dropLast := by
  unfold pop at h
  split at h
  · cases h
  · split at h <;> cases h
    rename_i hframes
    rw [hframes]
    rfl

/-- The candidate pushed last is the one popped first, and nothing else changes. -/
theorem pop_of_push {c pushed : Chain} {candidate : Frame} (hc : c.InStep)
    (h : c.push candidate = .ok pushed) : pushed.pop = .ok (candidate, c) := by
  obtain ⟨frames, active⟩ := c
  cases active with
  | false => cases h
  | true =>
    cases frames with
    | nil => exact absurd rfl (hc.1 rfl)
    | cons entry rest =>
      cases h
      cases rest with
      | nil => simp [pop]
      | cons first others =>
        simp only [pop, List.cons_append, Bool.not_true, Bool.false_eq_true, ↓reduceIte]
        have hlast : (first :: others ++ [candidate]).getLast (by simp) = candidate :=
          List.getLast_concat
        have hrest : (first :: others ++ [candidate]).dropLast = first :: others :=
          List.dropLast_concat
        rw [List.cons_append] at hrest
        simp only [List.cons_append] at hlast
        rw [hlast, hrest]

end Chain

end CallChain
