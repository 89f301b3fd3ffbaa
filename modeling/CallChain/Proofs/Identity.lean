/-
# Identities are faithful

An identity stands for one object of the host, and an object has one identity in each
registry, over a whole run: whatever host code does, whichever sessions share a
registry, whatever is purged on the way. The accounts of a world say so of the tags
its registries have given (`Host.accounts_moves`). Here the tags are tied to what can be
seen: each event in which identities come out is backed by the record of tags and
answers (`World.Backs`), and a record that has been made is never lost.

Key definitions: `World.Answered`, `World.Backs`.
Key theorems: `Host.reports`, `Host.backed_moves`, `Host.identities_faithful`.
-/
import CallChain.Proofs.Accounts
import CallChain.Proofs.Picture

namespace CallChain

variable {H α : Type}

/-! ### A pass is on record -/

/-- An object gave an answer. -/
def World.Answered (w : World H) (o : ObjectRef) (answer : Answer) : Prop :=
  .answered o answer ∈ w.journal

theorem Host.answered_ask (D : Host H) (level : Nat) (held : List ObjectRef) (o : ObjectRef) (w : World H) :
    (D.ask level held o w).2.Answered o (D.ask level held o w).1 := by
  cases level <;> exact List.mem_cons_self

/-- The tags and the answers of a pass are noted in the journal. -/
theorem Host.reports (D : Host H) (level n : Nat) :
    (World.surroundings (D.ask level) n).Reports (fun _ _ => True) (fun w => w.Tagged n) World.Answered where
  tag {held o id w v} _ _ htag := by
    obtain ⟨rfl, rfl⟩ : (w.tag n o).1 = id ∧ (w.tag n o).2 = v := Prod.mk.inj htag
    exact ⟨List.mem_cons_self, fun _ _ h => List.mem_cons_of_mem _ h, fun _ _ h => List.mem_cons_of_mem _ h⟩
  ask {held o answer w v} _ _ hask := by
    have hanswered := D.answered_ask level held o w
    have hgrows := (D.grows_ask level held o w).journal.subset
    rw [show D.ask level held o w = (answer, v) from hask] at hanswered hgrows
    exact ⟨hanswered, fun _ _ h => hgrows h, fun _ _ h => hgrows h⟩

/-! ### What is seen is on record -/

namespace World

open Rendered

/-- The record bears out what an event says of identities: rendered values depict the
host's by tags and answers on record, a frame holds what was rendered for its session,
and a reply about the identity of an object is its tag. -/
def Backs (w : World H) : Event → Prop
  | .rendered n vs rs => ∃ after, Depicts (w.Tagged n) w.Answered 0 [] vs rs after
  | .captured s f => ∃ n vs, w.registryOf? s = some n ∧ .rendered n vs f.values ∈ w.journal
  | .returned (.identify s v) id m =>
    (∃ n o, m.registryOf? s = some n ∧ v = .object o ∧ o ∈ m.known ∧ w.Tagged n o id) ∨
      (id = nullIdentity ∧ ∀ n o, m.registryOf? s = some n → v = .object o → o ∉ m.known)
  | .returned (.lookup s v) id m =>
    ∀ k, id = some k → ∃ n o, m.registryOf? s = some n ∧ v = .object o ∧ o ∈ m.known ∧ w.Tagged n o k
  | _ => True

theorem Backs.grow {w v : World H} (hg : w.Grows v) {e : Event} (h : w.Backs e) : v.Backs e := by
  have hj : ∀ {e : Event}, e ∈ w.journal → e ∈ v.journal := fun h => hg.journal.subset h
  cases e with
  | rendered n vs rs =>
    obtain ⟨after, hdepicts⟩ := h
    exact ⟨after, hdepicts.mono (fun _ _ h => hj h) (fun _ _ h => hj h)⟩
  | captured s f =>
    obtain ⟨n, vs, hn, hrendered⟩ := h
    exact ⟨n, vs, hg.registryOf hn, hj hrendered⟩
  | returned r reply m =>
    cases r with
    | identify s v =>
      refine h.imp_left fun hlive => ?_
      obtain ⟨n, o, hn, hv, ho, htagged⟩ := hlive
      exact ⟨n, o, hn, hv, ho, hj htagged⟩
    | lookup s v =>
      intro k hk
      obtain ⟨n, o, hn, hv, ho, htagged⟩ := h k hk
      exact ⟨n, o, hn, hv, ho, hj htagged⟩
    | _ => trivial
  | _ => trivial

/-- A world bears out its whole journal. -/
def Backed (w : World H) : Prop :=
  ∀ e ∈ w.journal, w.Backs e

theorem Backed.grow {w v : World H} (hg : w.Grows v) (h : w.Backed) (hj : v.journal = w.journal) : v.Backed :=
  fun e he => (h e (hj ▸ he)).grow hg

theorem Backed.note {w : World H} (h : w.Backed) {e : Event} (he : (w.note e).Backs e) :
    (w.note e).Backed := by
  intro e' he'
  rcases List.mem_cons.1 he' with rfl | he'
  · exact he
  · exact (h e' he').grow (.note w e)

/-- The object that is grasped is known, and it is the one that was handed over. -/
theorem grasp_object {w : World H} {v : Value} {o : ObjectRef} :
    (w.grasp v).object? = some o ↔ v = .object o ∧ o ∈ w.known := by
  cases v with
  | scalar s => simp [grasp, Value.object?]
  | object p =>
    by_cases hp : p ∈ w.known
    · simp only [grasp, hp, if_true, Value.object?, Option.some.injEq, Value.object.injEq]
      exact ⟨fun h => ⟨h, h ▸ hp⟩, fun h => h.1⟩
    · simp only [grasp, hp, if_false, Value.null, Value.object?, reduceCtorEq, Value.object.injEq, false_iff]
      rintro ⟨rfl, ho⟩
      exact hp ho

/-- A reply that the world vouches for is on record. -/
theorem backs_of_vouches {w : World H} (h : w.Accounts) {r : Request} {reply : r.Reply}
    (hr : w.Vouches r reply) : (World.conclude r (reply, w)).Backs (.returned r reply w.toMoment) := by
  cases r with
  | identify s v =>
    simp only [Vouches] at hr
    split at hr
    · rename_i n o hn ho
      obtain ⟨hv, hknown⟩ := grasp_object.1 ho
      exact .inl ⟨n, o, hn, hv, hknown, List.mem_cons_of_mem _ (List.mem_of_head? hr)⟩
    · rename_i hnone
      exact .inr ⟨hr, fun n o hn hv hknown => hnone n o hn (grasp_object.2 ⟨hv, hknown⟩)⟩
  | lookup s v =>
    intro k hk
    simp only [Vouches] at hr
    split at hr
    · rename_i n o hn ho
      obtain ⟨hv, hknown⟩ := grasp_object.1 ho
      have htagged := h.tagged_of_get? hknown (hr.symm.trans hk)
      exact ⟨n, o, hn, hv, hknown, List.mem_cons_of_mem _ htagged⟩
    · rw [hr] at hk
      cases hk
  | _ => trivial

end World

/-! ### All runs -/

/-- Every move leaves the accounts in order and the journal backed. -/
theorem Host.backed_moves (D : Host H) :
    D.Moves fun held w => (w.Accounts ∧ ∀ o ∈ held, o ∈ w.known) ∧ w.Backed where
  fewer hfewer h := ⟨D.accounts_moves.fewer hfewer h.1, h.2⟩
  grasp vs h := ⟨D.accounts_moves.grasp vs h.1, h.2⟩
  host change h := ⟨D.accounts_moves.host change h.1, h.2.grow (.host _ _) rfl⟩
  swept h := ⟨D.accounts_moves.swept h.1, h.2.grow (.sweep _ _ _) rfl⟩
  create typeName place store h :=
    ⟨D.accounts_moves.create typeName place store h.1, h.2.grow (.create _ _ _ _) rfl⟩
  asked o h := ⟨D.accounts_moves.asked o h.1, h.2.note trivial⟩
  answered o answer h := ⟨D.accounts_moves.answered o answer h.1, h.2.note trivial⟩
  tag {_ w _ n o} hn ho h := by
    have hset : (w.setRegistry n ((w.registry n).idOf o).2).Backed := h.2.grow ⟨List.suffix_refl _, id⟩ rfl
    exact ⟨D.accounts_moves.tag hn ho h.1, hset.note trivial⟩
  rendered {held w v s n level vs rs} hn hstart hrun h := by
    refine ⟨D.accounts_moves.rendered hn hstart.1 hrun h.1, h.2.note ?_⟩
    obtain ⟨rfl, rfl⟩ := Prod.mk.inj hrun
    have hdepicts := Pass.depicts_renderAll (Surroundings.keeps_any _) (D.reports level n)
      held vs ⟨w, []⟩ trivial
    exact ⟨_, hdepicts.mono (fun _ _ h => List.mem_cons_of_mem _ h) (fun _ _ h => List.mem_cons_of_mem _ h)⟩
  captured {_ w s n vs f} hn hhead h := by
    refine ⟨D.accounts_moves.captured hn hhead h.1, h.2.note ⟨n, vs, hn, ?_⟩⟩
    exact List.mem_cons_of_mem _ (List.mem_of_head? hhead)
  setSession ht h := ⟨D.accounts_moves.setSession ht h.1, h.2.grow (.setSession ht) rfl⟩
  openSession {_ w} share h := by
    refine ⟨D.accounts_moves.openSession share h.1, h.2.grow (.openSession w share) ?_⟩
    unfold World.openSession
    split <;> rfl
  purge {held w} n h := by
    refine ⟨D.accounts_moves.purge n h.1, World.Backed.note (w := _) ?_ trivial⟩
    exact h.2.grow ⟨List.suffix_refl _, id⟩ rfl
  returned hr h := ⟨D.accounts_moves.returned hr h.1, h.2.note (World.backs_of_vouches h.1.1 hr)⟩

/-- **Identities are faithful.** Over a whole run of any host code over any host: every
tag is at least 1, and two tags of a registry are equal exactly when they were given to
one object. Whatever is rendered shows each object by the tag that it was given, the
frames hold what was rendered, and a request for the identity of an object that has not
been found dead is answered with its tag. -/
theorem Host.identities_faithful (D : Host H) (level : Nat) (a : Activity H α) (h : H)
    (outlet : Option Outlet) :
    let w := (D.run level a (World.start h outlet)).2
    (∀ n o id, w.Tagged n o id → 1 ≤ id) ∧
      (∀ n o p id id', w.Tagged n o id → w.Tagged n p id' → (id = id' ↔ o.serial = p.serial)) ∧
      (∀ n vs rs, .rendered n vs rs ∈ w.journal →
        ∃ after, Rendered.Depicts (w.Tagged n) w.Answered 0 [] vs rs after) ∧
      (∀ s f, .captured s f ∈ w.journal →
        ∃ n vs, w.registryOf? s = some n ∧ .rendered n vs f.values ∈ w.journal) ∧
      (∀ s v id m, .returned (.identify s v) id m ∈ w.journal →
        (∃ n o, m.registryOf? s = some n ∧ v = .object o ∧ o ∈ m.known ∧ w.Tagged n o id) ∨
          (id = nullIdentity ∧ ∀ n o, m.registryOf? s = some n → v = .object o → o ∉ m.known)) ∧
      ∀ s v id m, .returned (.lookup s v) (some id) m ∈ w.journal →
        ∃ n o, m.registryOf? s = some n ∧ v = .object o ∧ o ∈ m.known ∧ w.Tagged n o id := by
  intro w
  obtain ⟨⟨haccounts, -⟩, hbacked⟩ : (w.Accounts ∧ ∀ o ∈ [], o ∈ w.known) ∧ w.Backed :=
    D.backed_moves.rule.run ⟨⟨World.Accounts.start h outlet, nofun⟩, nofun⟩
  refine ⟨fun n o id ho => (haccounts.given ho).1, fun n o p id id' ho hp => ?_,
    fun n vs rs he => hbacked _ he, fun s f he => hbacked _ he, fun s v id m he => hbacked _ he,
    fun s v id m he => hbacked _ he id rfl⟩
  rw [haccounts.faithful ho hp]
  exact ⟨fun heq => heq ▸ rfl, haccounts.one (.inr ⟨_, _, ho⟩) (.inr ⟨_, _, hp⟩)⟩

end CallChain
