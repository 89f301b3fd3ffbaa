/-
# References resolve

In the output of one pass no two objects carry the same identity, and a reference
always points back: an object with its identity opens earlier in the document. That
holds whatever the objects answer and whatever they do while they are asked, because
a pass opens an identity only at an object that it has not opened before, and refers
only to identities that it has opened.

Key definitions: `Rendered.Resolved`, `Pass.Calls`.
Key theorems: `Pass.resolved_of_calls`, `World.resolved_of_pass`.
-/
import CallChain.Proofs.Picture
import CallChain.World.Run

namespace CallChain

variable {σ ι : Type}

namespace Rendered

/-- No identity is opened twice, and every reference points at an object that opens
before it. -/
structure Resolved (rs : List (Rendered ι)) : Prop where
  nodup : (openedIn (document rs)).Nodup
  earlier : ∀ (before after : List (Node ι)) (place : List Nat) (id : ι),
    document rs = before ++ ⟨place, .reference id⟩ :: after → ∃ n ∈ before, n.value.opens? = some id

variable {named : ObjectRef → ι → Prop} {answered : ObjectRef → Answer → Prop}

/-- A node opens an identity that is new, or refers to one that is not. -/
def InOrder (seen : List ι) (n : Node ι) : Prop :=
  (∀ id, n.value.opens? = some id → id ∉ seen) ∧ ∀ id, n.value = .reference id → id ∈ seen

theorem Fits.inOrder {level : Nat} {seen : List ι} {v : Value} {r : Rendered ι} {kids : List Value}
    (h : Fits named answered level seen v r kids) (place : List Nat) : InOrder seen ⟨place, r⟩ := by
  refine ⟨fun id hopens => ?_, fun id hreference => ?_⟩
  · cases h with
    | object shallow name new reply outline => cases hopens; exact new
    | _ => cases hopens
  · cases h with
    | reference name old => cases hreference; exact old
    | _ => cases hreference

theorem Depicts.inOrder {seen after : List ι} {vs : List Value} {rs : List (Rendered ι)}
    (h : Depicts named answered 0 seen vs rs after) : Along InOrder seen (document rs) := by
  have halong := (h.along (fun _ _ => True) (fun _ _ _ => trivial) [] 0 rfl
    (fun _ _ _ => trivial)).2
  exact halong.imp fun seen n ⟨_, _, _, hfits⟩ => hfits.inOrder n.place

theorem nodup_openedIn : ∀ {seen : List ι} {ns : List (Node ι)}, Along InOrder seen ns → seen.Nodup →
    ((openedIn ns).reverse ++ seen).Nodup
  | _, [], _, hseen => hseen
  | seen, n :: ns, h, hseen => by
    have hnew := h.1.1
    have hrest := h.2
    cases hopens : n.value.opens? with
    | none =>
      rw [hopens] at hrest
      simpa [openedIn, hopens] using nodup_openedIn hrest hseen
    | some id =>
      rw [hopens] at hrest
      have hcons : (id :: seen).Nodup := List.nodup_cons.2 ⟨hnew id hopens, hseen⟩
      simpa [openedIn, hopens] using nodup_openedIn hrest hcons

theorem Depicts.resolved {after : List ι} {vs : List Value} {rs : List (Rendered ι)}
    (h : Depicts named answered 0 [] vs rs after) : Resolved rs where
  nodup := by
    have hnodup := nodup_openedIn h.inOrder List.nodup_nil
    rw [List.append_nil] at hnodup
    exact (List.pairwise_reverse.1 hnodup).imp Ne.symm
  earlier before after place id hsplit := by
    have hold : id ∈ (openedIn before).reverse := (h.inOrder.of_split hsplit).2 id rfl
    exact mem_openedIn.1 (List.mem_reverse.1 hold)

end Rendered

open Rendered

/-! ### One serial use of a pass

A pass may be used for several calls, each over some values. What happens between
the calls may depend on what they returned, and may change the surroundings in any
way; only the opened identities are the pass's own. -/

theorem Surroundings.reports_any (env : Surroundings σ ι) :
    env.Reports (fun _ _ => True) (fun _ _ _ => True) (fun _ _ _ => True) :=
  ⟨fun _ _ _ => ⟨trivial, fun _ _ h => h, fun _ _ h => h⟩,
    fun _ _ _ => ⟨trivial, fun _ _ h => h, fun _ _ h => h⟩⟩

variable [DecidableEq ι]

/-- A new pass has been used for some calls, and rendered all this. -/
inductive Pass.Calls (env : Surroundings σ ι) : List (Rendered ι) → Pass σ ι → Prop
  | start (s : σ) : Calls env [] ⟨s, []⟩
  | between {rs : List (Rendered ι)} {p : Pass σ ι} (s : σ) (h : Calls env rs p) :
      Calls env rs ⟨s, p.opened⟩
  | call {rs : List (Rendered ι)} {p : Pass σ ι} (held : List ObjectRef) (vs : List Value)
      (h : Calls env rs p) :
      Calls env (rs ++ (Pass.renderAll env held vs p).1) (Pass.renderAll env held vs p).2

theorem Pass.depicts_of_calls {env : Surroundings σ ι} {rs : List (Rendered ι)} {p : Pass σ ι}
    (h : Pass.Calls env rs p) :
    ∃ vs, Depicts (fun _ _ => True) (fun _ _ => True) 0 [] vs rs p.opened := by
  induction h with
  | start s => exact ⟨[], .nil 0 []⟩
  | between s h ih => exact ih
  | call held vs h ih =>
    obtain ⟨ws, hws⟩ := ih
    exact ⟨ws ++ vs, hws.append (Pass.depicts_renderAll env.keeps_any env.reports_any held vs _ trivial)⟩

theorem Pass.resolved_of_calls {env : Surroundings σ ι} {rs : List (Rendered ι)} {p : Pass σ ι}
    (h : Pass.Calls env rs p) : Resolved rs := by
  obtain ⟨vs, hvs⟩ := Pass.depicts_of_calls h
  exact hvs.resolved

/-- **References resolve.** Whatever asking an object does to the world, the output of
a pass over some values, and of a pass that is used call by call, has no identity
twice and no reference that does not point back. -/
theorem World.resolved_of_pass {H : Type} (ask : Asking H) :
    (∀ (w : World H) (held : List ObjectRef) (session : Nat) (vs : List Value),
      Resolved (w.capture ask held session vs).1) ∧
    ∀ (n : Nat) (rs : List (Rendered Nat)) (p : Pass (World H) Nat),
      Pass.Calls (World.surroundings ask n) rs p → Resolved rs := by
  refine ⟨fun w held session vs => ?_, fun n rs p h => Pass.resolved_of_calls h⟩
  unfold World.capture
  split
  · rename_i n _
    have hstart : Pass.Calls (World.surroundings ask n) [] ⟨w, []⟩ := .start w
    have hcall := hstart.call held (vs.map w.grasp)
    rw [List.nil_append] at hcall
    exact Pass.resolved_of_calls hcall
  · have hstart : Pass.Calls (World.surroundings ask 0) [] ⟨w, []⟩ := .start w
    exact Pass.resolved_of_calls hstart

end CallChain
