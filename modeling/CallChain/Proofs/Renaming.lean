/-
# Sessions under a renaming of identities

A session never looks into the values that it records. So a session with other identities
in its frames does the same: its operations give the same results, and lead to the session
with the other identities. Only a match shows the identities, in its frames and in the
artifact that is made of them.

This is said of sessions without an outlet. An outlet keeps the artifacts sent as texts,
and the frames that they were made of are not there any more.

Key definitions: `Frame.rename`, `Session.rename`, `Completion.Renamed`, `Fault.Or`,
`Session.Natural`.
Key theorems: `Session.Natural.attempt`, `Session.natural_enterEntry`,
`Session.natural_matchChain`.
-/
import CallChain.Proofs.Growth
import CallChain.Proofs.Course
import Mathlib.Logic.Basic

namespace CallChain

variable {β γ : Type}

/-- A frame with other identities. -/
def Frame.rename (ρ : Nat → Nat) (f : Frame) : Frame :=
  ⟨f.method, f.values.map (Rendered.map ρ)⟩

/-- A chain with other identities in its frames. -/
def Chain.rename (ρ : Nat → Nat) (c : Chain) : Chain :=
  ⟨c.frames.map (Frame.rename ρ), c.inTarget⟩

/-- A session with other identities in its frames. -/
def Session.rename (ρ : Nat → Nat) (s : Session) : Session :=
  { s with chain := s.chain.rename ρ }

/-- The first match has the frames of the second one with other identities, and each has
the artifact of its frames. -/
inductive Completion.Renamed (ρ : Nat → Nat) : Completion → Completion → Prop
  | matching (frames : List Frame) : Renamed ρ (.matching (frames.map (Frame.rename ρ))) (.matching frames)

/-- Two operations end with the same fault, or with results that belong together. -/
inductive Fault.Or (R : β → γ → Prop) : Except Fault β → Except Fault γ → Prop
  | fault (f : Fault) : Or R (.error f) (.error f)
  | result {b : β} {c : γ} (h : R b c) : Or R (.ok b) (.ok c)

theorem Fault.Or.eq {r r' : Except Fault β} (h : Fault.Or Eq r r') : r = r' := by
  cases h with
  | fault f => rfl
  | result h => rw [h]

/-! ### Chains -/

namespace Chain

variable (ρ : Nat → Nat) (c : Chain)

theorem enter_rename (f : Frame) : (c.rename ρ).enter (f.rename ρ) = (c.enter f).map (rename ρ) := by
  obtain ⟨frames, active⟩ := c
  cases active with
  | false => simp [enter, rename, Except.map]
  | true => rfl

theorem push_rename (f : Frame) : (c.rename ρ).push (f.rename ρ) = (c.push f).map (rename ρ) := by
  obtain ⟨frames, active⟩ := c
  cases active with
  | false => rfl
  | true => simp [push, rename, Except.map]

/-- A frame that comes off a chain, and the chain, with other identities. -/
def renameLeft (left : Frame × Chain) : Frame × Chain :=
  (left.1.rename ρ, left.2.rename ρ)

theorem leave_rename : (c.rename ρ).leave = c.leave.map (renameLeft ρ) := by
  obtain ⟨frames, active⟩ := c
  cases active with
  | false => rfl
  | true =>
    match frames with
    | [] => rfl
    | [_] => rfl
    | _ :: _ :: _ => simp [leave, rename, Except.map]

theorem pop_rename : (c.rename ρ).pop = c.pop.map (renameLeft ρ) := by
  obtain ⟨frames, active⟩ := c
  cases active with
  | false => rfl
  | true =>
    match frames with
    | [] => rfl
    | [_] => rfl
    | entry :: candidate :: rest =>
      have hlast : ∀ h, ((candidate :: rest).map (Frame.rename ρ)).getLast h =
          ((candidate :: rest).getLast (List.cons_ne_nil _ _)).rename ρ := fun h => List.getLast_map h
      have hinit : ((candidate :: rest).map (Frame.rename ρ)).dropLast =
          (candidate :: rest).dropLast.map (Frame.rename ρ) := by rw [List.map_dropLast]
      exact congrArg₂ (fun last init => Except.ok (last, Chain.mk (entry.rename ρ :: init) true)) (hlast _) hinit

end Chain

/-! ### Sessions -/

namespace Session

/-- Two steps do the same to a session without an outlet, but for the identities: they end
with the same fault, or with results that belong together in sessions that still differ by
the renaming only. -/
def Natural (ρ : Nat → Nat) (R : β → γ → Prop) (step : Session → Except Fault (β × Session))
    (step' : Session → Except Fault (γ × Session)) : Prop :=
  ∀ s : Session, s.outlet = none →
    Fault.Or (fun p q => R p.1 q.1 ∧ p.2 = q.2.rename ρ ∧ q.2.outlet = none) (step (s.rename ρ)) (step' s)

variable {ρ : Nat → Nat} {R : β → γ → Prop}

theorem Natural.attempt {step : Session → Except Fault (β × Session)}
    {step' : Session → Except Fault (γ × Session)} (h : Natural ρ R step step') {s : Session}
    (houtlet : s.outlet = none) :
    Fault.Or R ((s.rename ρ).attempt step).1 (s.attempt step').1 ∧
      ((s.rename ρ).attempt step).2 = (s.attempt step').2.rename ρ ∧ (s.attempt step').2.outlet = none := by
  have hstep := h s houtlet
  unfold Session.attempt
  by_cases hcomplete : s.complete = true
  · rw [if_pos hcomplete, if_pos (show (s.rename ρ).complete = true from hcomplete)]
    exact ⟨.fault _, rfl, houtlet⟩
  · rw [if_neg hcomplete, if_neg (show ¬ (s.rename ρ).complete = true from hcomplete)]
    generalize step (s.rename ρ) = p at hstep
    generalize step' s = q at hstep
    cases hstep with
    | fault f => exact ⟨.fault f, rfl, houtlet⟩
    | result hresult => exact ⟨.result hresult.1, hresult.2.1, hresult.2.2⟩

/-- What a step makes of the chain it makes of the chain with other identities as well. -/
theorem natural_of_chain {α : Type} {r r' : Except Fault α} {f : α → α} (result : α → β) (chain : α → Chain)
    (hr : r = r'.map f) (hresult : ∀ a, result (f a) = result a)
    (hchain : ∀ a, chain (f a) = (chain a).rename ρ) {s : Session} (houtlet : s.outlet = none) :
    Fault.Or (fun (p q : β × Session) => p.1 = q.1 ∧ p.2 = q.2.rename ρ ∧ q.2.outlet = none)
      (r.map fun a => (result a, { s.rename ρ with chain := chain a }))
      (r'.map fun a => (result a, { s with chain := chain a })) := by
  rw [hr]
  cases r' with
  | error fault => exact .fault fault
  | ok a =>
    refine .result ⟨hresult a, ?_, houtlet⟩
    simp only [rename, hchain]

theorem natural_enterEntry (f : Frame) : Natural ρ Eq (enterEntry (f.rename ρ)) (enterEntry f) :=
  fun s houtlet =>
    natural_of_chain (fun _ => ()) id (s.chain.enter_rename ρ f) (fun _ => rfl) (fun _ => rfl) houtlet

theorem natural_exitEntry : Natural ρ Eq exitEntry exitEntry :=
  fun s houtlet =>
    natural_of_chain (fun _ => ()) Prod.snd (s.chain.leave_rename ρ) (fun _ => rfl) (fun _ => rfl) houtlet

theorem natural_enterCandidate (f : Frame) : Natural ρ Eq (enterCandidate (f.rename ρ)) (enterCandidate f) :=
  fun s houtlet =>
    natural_of_chain (fun _ => true) id (s.chain.push_rename ρ f) (fun _ => rfl) (fun _ => rfl) houtlet

theorem natural_exitCandidate : Natural ρ Eq exitCandidate exitCandidate := by
  intro s houtlet
  unfold exitCandidate
  by_cases hin : (!s.chain.inTarget) = true
  · rw [if_pos hin, if_pos (show (!(s.rename ρ).chain.inTarget) = true from hin)]
    exact .result ⟨rfl, rfl, houtlet⟩
  · rw [if_neg hin, if_neg (show ¬ (!(s.rename ρ).chain.inTarget) = true from hin)]
    exact natural_of_chain (fun _ => true) Prod.snd (s.chain.pop_rename ρ) (fun _ => rfl) (fun _ => rfl) houtlet

/-- The frames of a match are those recorded and the terminal one. -/
theorem natural_matchChain (f : Frame) :
    Natural ρ (Completion.Renamed ρ) (matchChain (f.rename ρ)) (matchChain f) := by
  intro s houtlet
  have hframes : (s.rename ρ).chain.snapshot (f.rename ρ) = (s.chain.snapshot f).map (Frame.rename ρ) := by
    simp [Chain.snapshot, rename, Chain.rename]
  unfold matchChain
  rw [hframes]
  refine .result ⟨.matching _, ?_, ?_⟩
  · simp only [finish, rename, houtlet, Option.map_none]
  · simp only [finish, houtlet, Option.map_none]

/-- A report of the call stack shows no identities. -/
theorem natural_discover (offered : List String) : Natural ρ Eq (discover offered) (discover offered) := by
  intro s houtlet
  have hwalk : (s.rename ρ).walk offered = s.walk offered := rfl
  unfold discover
  rw [hwalk]
  refine .result ⟨rfl, ?_, ?_⟩
  · simp only [finish, rename, houtlet, Option.map_none]
  · simp only [finish, houtlet, Option.map_none]

end Session

end CallChain
