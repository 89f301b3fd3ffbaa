/-
# Match artifacts are not nested deeply

A pass nests so many objects and no more (`maxDepth`), and each of them costs one level of
JSON or two. With the levels of the artifact around the values and those of a failure that
stands at the end, at most 125 brackets are open at once in the text of a match artifact,
whatever the objects are like and whatever they do when they are asked.

The frames of a session are shallow because each of them was captured at some time, and
what is captured is what a pass has rendered.

Key definitions: `Frame.Shallow`, `Event.Shallow`.
Key theorems: `Pass.Renders.height_le`, `Host.shallow_moves`, `Session.Turns.frames`,
`Host.artifacts_shallow`.
-/
import CallChain.Proofs.Artifact
import CallChain.Proofs.Brackets
import CallChain.Proofs.Turns

namespace CallChain

open Json

variable {H α : Type}

/-! ### How deep a pass goes -/

theorem Scalar.height_layout (s : Scalar) : s.layout.height = 0 := by
  rcases s.layout_cases with h | ⟨b, h⟩ | ⟨t, -, h⟩ | ⟨x, h⟩ <;> rw [h] <;> rfl

namespace Rendered

theorem heightOfPairs_layoutFields : ∀ fields : List (String × Rendered Nat),
    heightOfPairs (layoutFields fields) = heightOfItems (layoutItems (fields.map (·.2)))
  | [] => rfl
  | (_, value) :: rest => congrArg (max value.layout.height) (heightOfPairs_layoutFields rest)

/-- An object costs one level of JSON, and one more if its children stand apart from its
identity and its type. -/
theorem height_layout_object (id : Nat) (typeName : String) (body : Shape (Rendered Nat)) :
    (layout (.object id typeName body)).height ≤ heightOfItems (layoutItems body.children) + 2 := by
  have hid : (identityLayout id).height = 0 := rfl
  cases body with
  | record fields =>
    simp only [layout, height, heightOfPairs, hid, heightOfPairs_layoutFields, Shape.children]
    omega
  | sequence items =>
    simp only [layout, height, heightOfPairs, hid, Shape.children]
    omega
  | mapping entries =>
    simp only [layout, height, heightOfPairs, hid, heightOfPairs_layoutFields, Shape.children]
    omega

end Rendered

/-- With room for so many nested objects a pass costs two levels for each of them, and two
for what stands where there is no room left. -/
theorem Pass.Renders.height_le {σ : Type} {env : Surroundings σ Nat} {Good : List ObjectRef → σ → Prop}
    {room : Nat} {vs : List Value} {p q : Pass σ Nat} {rs : List (Rendered Nat)}
    (h : Renders env Good room vs p rs q) : heightOfItems (Rendered.layoutItems rs) ≤ 2 * room + 2 := by
  induction h with
  | nil => exact Nat.zero_le _
  | scalar rest ih =>
    rename_i s _ _ _ _
    have hscalar : (Rendered.layout (.scalar s)).height = 0 := s.height_layout
    simp only [Rendered.layoutItems, heightOfItems, hscalar]
    omega
  | reference good mem tag old rest ih =>
    rename_i id _ _ _ _ _
    have hreference : (Rendered.layout (.reference id)).height = 1 := rfl
    simp only [Rendered.layoutItems, heightOfItems, hreference]
    omega
  | tooDeep good mem tag new rest ih =>
    rename_i o _ _ _ _ _ _
    have hfailed : (Rendered.layout (.failed (CallChain.tooDeep o))).height = 2 := rfl
    simp only [Rendered.layoutItems, heightOfItems, hfailed]
    omega
  | failed good mem tag new ask failure rest ih =>
    rename_i f _ _ _ _
    have hfailed : (Rendered.layout (.failed f)).height = 2 := rfl
    simp only [Rendered.layoutItems, heightOfItems, hfailed]
    omega
  | object good mem tag new ask outline inside rest ihInside ihRest =>
    rename_i o id _ _ _ body _ _ _ _ _
    have hobject := Rendered.height_layout_object id o.typeName body
    simp only [Rendered.layoutItems, heightOfItems]
    omega

/-! ### Everything that is captured is shallow -/

/-- Values that nest no more than a pass allows. -/
def ShallowValues (rs : List (Rendered Nat)) : Prop :=
  heightOfItems (Rendered.layoutItems rs) ≤ 2 * maxDepth + 2

def Frame.Shallow (f : Frame) : Prop :=
  ShallowValues f.values

/-- The values that a pass has rendered are shallow, and those of a captured frame. -/
def Event.Shallow : Event → Prop
  | .rendered _ _ rs => ShallowValues rs
  | .captured _ f => f.Shallow
  | _ => True

/-- Everything in a journal is shallow. -/
def ShallowJournal (j : List Event) : Prop :=
  ∀ e ∈ j, e.Shallow

theorem ShallowJournal.note {j : List Event} {e : Event} (he : e.Shallow) (h : ShallowJournal j) :
    ShallowJournal (e :: j) := by
  intro e' he'
  rcases List.mem_cons.1 he' with rfl | he'
  · exact he
  · exact h e' he'

theorem ShallowJournal.suffix {j j' : List Event} (h : ShallowJournal j) (hsuffix : j' <:+ j) : ShallowJournal j' :=
  fun e he => h e (hsuffix.mem he)

theorem ShallowJournal.earlier {j : List Event} {e : Event} (h : ShallowJournal (e :: j)) : ShallowJournal j :=
  h.suffix (List.suffix_cons e j)

/-- What a journal says was captured last is shallow. -/
theorem ShallowJournal.capturedLast {j : List Event} {s : Nat} {m : Method} {f : Frame}
    (h : ShallowJournal j) (hf : CapturedLast j s m f) : f.Shallow :=
  h (.captured s f) (List.mem_of_mem_head? hf.2)

/-- Every move of a run keeps the journal shallow. -/
theorem Host.shallow_moves (D : Host H) : D.Moves fun _ w => ShallowJournal w.journal where
  fewer _ h := h
  grasp _ h := h
  host _ h := h
  swept h := h
  create _ _ _ h := h
  asked _ h := h.note trivial
  answered _ _ h := h.note trivial
  tag _ _ h := h.note trivial
  rendered {held w v s n level vs rs} _ _ hrun h := by
    refine h.note ?_
    have hrenders := (Pass.renders_renderAll (World.surroundings (D.ask level) n).keeps_any held vs
      ⟨w, []⟩ trivial).1.height_le
    have hrs : (Pass.renderAll (World.surroundings (D.ask level) n) held vs ⟨w, []⟩).1 = rs :=
      congrArg Prod.fst hrun
    rwa [hrs] at hrenders
  captured {held w s n vs f} _ hhead h :=
    h.note (h (.rendered n vs f.values) (List.mem_of_mem_head? hhead))
  setSession _ h := h
  openSession share h := by
    unfold World.openSession
    split <;> exact h
  purge _ h := h.note trivial
  returned _ h := h.note trivial

/-! ### The frames of a session are shallow -/

namespace Session

variable {x t : Session} {f : Frame}

theorem frames_of_enterEntry {b : Unit} (h : x.enterEntry f = .ok (b, t)) :
    t.chain.frames = x.chain.frames ++ [f] := by
  unfold enterEntry at h
  cases hchain : x.chain.enter f with
  | error fault => rw [hchain] at h; cases h
  | ok entered =>
    rw [hchain] at h
    cases h
    exact Chain.frames_of_enter hchain

theorem frames_of_enterCandidate {b : Bool} (h : x.enterCandidate f = .ok (b, t)) :
    t.chain.frames = x.chain.frames ++ [f] := by
  unfold enterCandidate at h
  cases hchain : x.chain.push f with
  | error fault => rw [hchain] at h; cases h
  | ok pushed =>
    rw [hchain] at h
    cases h
    exact Chain.frames_of_push hchain

theorem frames_of_exitEntry {b : Unit} (h : x.exitEntry = .ok (b, t)) : t.chain.frames = [] := by
  unfold exitEntry at h
  cases hchain : x.chain.leave with
  | error fault => rw [hchain] at h; cases h
  | ok left =>
    rw [hchain] at h
    cases h
    rw [Chain.eq_empty_of_leave hchain]
    rfl

theorem frames_of_exitCandidate {b : Bool} (h : x.exitCandidate = .ok (b, t)) :
    ∀ g ∈ t.chain.frames, g ∈ x.chain.frames := by
  unfold exitCandidate at h
  split at h
  · cases h
    exact fun g hg => hg
  · cases hchain : x.chain.pop with
    | error fault => rw [hchain] at h; cases h
    | ok popped =>
      rw [hchain] at h
      cases h
      intro g hg
      rw [Chain.frames_of_pop hchain] at hg
      exact List.dropLast_subset _ hg

/-- The frame that a session has recorded is the one that was captured last. -/
theorem mem_frames_of_recorded {j : List Event} {s : Nat} {m : Method}
    (hframes : t.chain.frames = x.chain.frames ++ [f]) (hf : CapturedLast j s m f) :
    ∀ g ∈ t.chain.frames, g ∈ x.chain.frames ∨ ∃ s m, CapturedLast j s m g := by
  intro g hg
  rw [hframes] at hg
  rcases List.mem_append.1 hg with hg | hg
  · exact .inl hg
  · rw [List.mem_singleton.1 hg]
    exact .inr ⟨s, m, hf⟩

end Session

/-- The frames of a session after a turn are frames that it had, or the one that was
captured last. -/
theorem Session.Turns.frames {x t : Session} {j : List Event} {r : Request} {reply : r.Reply}
    (h : x.Turns j r reply t) :
    ∀ f ∈ t.chain.frames, f ∈ x.chain.frames ∨ ∃ s m, CapturedLast j s m f := by
  cases r with
  | enterEntry s m vs =>
    obtain ⟨f, hcaptured, hattempt⟩ := h
    rcases attempt_cases hattempt with rfl | ⟨-, b, hstep⟩
    · exact fun g hg => .inl hg
    · exact mem_frames_of_recorded (frames_of_enterEntry hstep) hcaptured
  | exitEntry s =>
    rcases attempt_cases h with rfl | ⟨-, b, hstep⟩
    · exact fun g hg => .inl hg
    · intro g hg
      rw [frames_of_exitEntry hstep] at hg
      cases hg
  | enterCandidate s m vs =>
    obtain ⟨f, hcaptured, hattempt⟩ := h
    rcases attempt_cases hattempt with rfl | ⟨-, b, hstep⟩
    · exact fun g hg => .inl hg
    · exact mem_frames_of_recorded (frames_of_enterCandidate hstep) hcaptured
  | exitCandidate s =>
    rcases attempt_cases h with rfl | ⟨-, b, hstep⟩
    · exact fun g hg => .inl hg
    · exact fun g hg => .inl (frames_of_exitCandidate hstep g hg)
  | matchChain s m vs =>
    obtain ⟨f, -, hattempt⟩ := h
    rcases attempt_cases hattempt with rfl | ⟨-, b, hstep⟩
    · exact fun g hg => .inl hg
    · cases hstep
      exact fun g hg => .inl hg
  | discover s offered =>
    rcases attempt_cases h with rfl | ⟨-, b, hstep⟩
    · exact fun g hg => .inl hg
    · cases hstep
      exact fun g hg => .inl hg
  | _ =>
    obtain rfl : t = x := h
    exact fun g hg => .inl hg

/-- Frames that were captured in a shallow journal are shallow. -/
theorem Session.shallow_rule :
    Session.Rule fun _ j x => ShallowJournal j → ∀ f ∈ x.chain.frames, f.Shallow where
  note _ h hj := h hj.earlier
  aside _ hm h hj := h hj.earlier
  turn _ _ hresolved h hj f hf := by
    cases hresolved with
    | refused _ => exact h hj.earlier f hf
    | turned _ _ _ hturns =>
      rcases hturns.frames f hf with hf | ⟨s, m, hcaptured⟩
      · exact h hj.earlier f hf
      · exact hj.earlier.capturedLast hcaptured
  opened _ _ _ := nofun

/-! ### Artifacts -/

theorem heightOfItems_frames : ∀ {fs : List Frame}, (∀ f ∈ fs, f.Shallow) →
    heightOfItems (fs.map Frame.layout) ≤ 2 * maxDepth + 4
  | [], _ => Nat.zero_le _
  | f :: fs, h => by
    have hf : heightOfItems (Rendered.layoutItems f.values) ≤ 2 * maxDepth + 2 := h f List.mem_cons_self
    have hfs := heightOfItems_frames fun g hg => h g (List.mem_cons_of_mem _ hg)
    simp only [List.map_cons, Frame.layout, heightOfItems, height, heightOfPairs]
    omega

/-- The artifact of shallow frames opens at most 125 brackets at once, and closes them. -/
theorem rises_chainArtifact {fs : List Frame} (h : ∀ f ∈ fs, f.Shallow) :
    Brackets.Rises 125 (chainArtifact fs).toList := by
  have hheight : (Json.array (fs.map Frame.layout)).height ≤ 125 := by
    have hfs := heightOfItems_frames h
    simp only [maxDepth] at hfs
    simp only [height]
    omega
  have hrises := (rises_write _ (chain_spelled fs)).mono hheight
  simpa only [chainArtifact, text, String.toList_ofList] using hrises

theorem World.frames_start (h : H) (outlet : Option Outlet) (s : Nat) :
    ((World.start h outlet).session s).chain.frames = [] := by
  cases s <;> rfl

/-- **Match artifacts are not nested deeply.** Whatever host code does and whatever its
objects are like: in the artifact of every match that a session has returned, however far
it is read, at most 125 brackets are open outside of string literals, and all of them are
closed at the end. -/
theorem Host.artifacts_shallow (D : Host H) (level : Nat) (a : Activity H α) (h : H)
    (outlet : Option Outlet) :
    let w := (D.run level a (World.start h outlet)).2
    ∀ (s : Nat) (method : Method) (vs : List Value) (c : Completion) (m : Moment),
      .returned (.matchChain s method vs) (.ok c) m ∈ w.journal →
        (∀ read, read <+: c.artifact.toList → (Brackets.scan .start read).depth ≤ 125) ∧
          Brackets.scan .start c.artifact.toList = .start := by
  intro w s method vs c m hmem
  have hjournal : ShallowJournal w.journal := D.shallow_moves.rule.run (w := World.start h outlet) nofun
  have hstart : ∀ s, ShallowJournal [] → ∀ f ∈ ((World.start h outlet).session s).chain.frames, f.Shallow := by
    intro s _ f hf
    rw [World.frames_start] at hf
    cases hf
  have htraced := Session.shallow_rule.run D level a hstart rfl s
  obtain ⟨earlier, hsuffix, hturning⟩ := htraced.before.of_mem hmem
  have hearlier : ShallowJournal earlier := (hjournal.suffix hsuffix).earlier
  obtain ⟨x, hgood, hresolved⟩ := hturning.resolved rfl
  rcases hresolved.matchChain with ⟨-, hreply, -⟩ | ⟨-, f, hcaptured, hreply, -⟩
  · cases hreply
  cases hreply
  have hframes : ∀ g ∈ x.chain.frames ++ [f], g.Shallow := by
    intro g hg
    rcases List.mem_append.1 hg with hg | hg
    · exact hgood hearlier g hg
    · rw [List.mem_singleton.1 hg]
      exact hearlier.capturedLast hcaptured
  obtain ⟨hback, hpeak⟩ := rises_chainArtifact hframes 0
  refine ⟨fun read hread => ?_, hback⟩
  calc (Brackets.scan .start read).depth ≤ Brackets.peak .start (chainArtifact (x.chain.frames ++ [f])).toList :=
        Brackets.depth_le_peak .start hread
    _ ≤ 0 + 125 := hpeak

/-- A box shows itself and a text, with a bracket in it. -/
def boxHost : Host Unit where
  describe _ o := .done (.shape (.sequence [.object o, .scalar (.str "[")]))
  keeps _ _ := []

/-- A chain that starts at a box ends with a text. -/
def boxRun : Activity Unit (Except Fault Completion) := do
  let box ← Activity.birth "Box" fun _ h => h
  let _ ← Activity.request (.enterEntry 0 ⟨"Box.open()"⟩ [.object box])
  Activity.request (.matchChain 0 ⟨"Box.put(String)"⟩ [.scalar (.str "]")])

theorem box_artifact_shallow :
    let w := (boxHost.run 1 boxRun (World.start () none)).2
    ∃ c m, .returned (.matchChain 0 ⟨"Box.put(String)"⟩ [.scalar (.str "]")]) (.ok c) m ∈ w.journal ∧
      (∀ read, read <+: c.artifact.toList → (Brackets.scan .start read).depth ≤ 125) ∧
        Brackets.scan .start c.artifact.toList = .start := by
  intro w
  refine ⟨_, _, List.mem_cons_self, ?_⟩
  exact Host.artifacts_shallow boxHost 1 boxRun () none 0 _ _ _ _ List.mem_cons_self

end CallChain
