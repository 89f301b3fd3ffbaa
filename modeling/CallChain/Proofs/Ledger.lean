/-
# The ledger of a registry

Every slot of a registry is accounted for. At each point of a run a registry has as many
slots as it has named objects, less the slots that purges have released; an object that
lives still has the slot with the identity that it was given; and a slot only ever goes
when a purge finds its object dead.

The journal is the ledger: a tag books a slot in, unless the object has one already, and a
release books some out. All else that happens leaves the books alone, and so a statement
about them needs to be proved for these two steps only (`Host.Books`).

Key definitions: `namedBy`, `freedBy`, `Moment.Ledger`, `EachRelease`, `Host.Books`,
`World.Releases`, `Host.Bookkeeping`.
Key theorems: `Host.Books.moves`, `Host.ledger_books`, `World.releases_purge`,
`Host.purge_again`, `Host.registry_ledger`.
-/
import CallChain.Proofs.Faithful
import CallChain.Proofs.Turns
import Mathlib.Algebra.GroupWithZero.Nat
import Mathlib.Data.List.Dedup

namespace CallChain

variable {H α : Type}

/-! ### What the journal tells of the slots -/

/-- The object that a registry named. -/
def Event.named? (n : Nat) : Event → Option ObjectRef
  | .tagged k o _ => if k = n then some o else none
  | _ => none

/-- The number of slots that a registry lost. -/
def Event.freed (n : Nat) : Event → Nat
  | .released k count => if k = n then count else 0
  | _ => 0

/-- Whether something done concerns the slots of a registry. -/
def Event.isBooking : Event → Bool
  | .tagged .. => true
  | .released .. => true
  | _ => false

/-- The objects that a registry has named, each of them once. -/
def namedBy (n : Nat) (j : List Event) : List ObjectRef :=
  (j.filterMap (Event.named? n)).dedup

/-- The number of slots that a registry has lost. -/
def freedBy (n : Nat) (j : List Event) : Nat :=
  (j.map (Event.freed n)).sum

theorem mem_namedBy {n : Nat} {j : List Event} {o : ObjectRef} :
    o ∈ namedBy n j ↔ ∃ id, .tagged n o id ∈ j := by
  simp only [namedBy, List.mem_dedup, List.mem_filterMap]
  constructor
  · rintro ⟨e, he, ho⟩
    cases e with
    | tagged k p id =>
      by_cases hk : k = n
      · subst hk
        rw [Event.named?, if_pos rfl] at ho
        cases ho
        exact ⟨id, he⟩
      · rw [Event.named?, if_neg hk] at ho
        cases ho
    | _ => cases ho
  · rintro ⟨id, he⟩
    exact ⟨_, he, if_pos rfl⟩

theorem namedBy_cons {n : Nat} {e : Event} (h : e.named? n = none) (j : List Event) :
    namedBy n (e :: j) = namedBy n j := by
  rw [namedBy, List.filterMap_cons, h, namedBy]

theorem namedBy_cons_old {n : Nat} {e : Event} {o : ObjectRef} {j : List Event} (h : e.named? n = some o)
    (ho : o ∈ namedBy n j) : namedBy n (e :: j) = namedBy n j := by
  rw [namedBy, List.filterMap_cons, h]
  exact List.dedup_cons_of_mem (List.mem_dedup.1 ho)

theorem namedBy_cons_new {n : Nat} {e : Event} {o : ObjectRef} {j : List Event} (h : e.named? n = some o)
    (ho : o ∉ namedBy n j) : namedBy n (e :: j) = o :: namedBy n j := by
  rw [namedBy, List.filterMap_cons, h]
  exact List.dedup_cons_of_notMem fun hmem => ho (List.mem_dedup.2 hmem)

@[simp]
theorem freedBy_cons (n : Nat) (e : Event) (j : List Event) : freedBy n (e :: j) = e.freed n + freedBy n j := by
  rw [freedBy, List.map_cons, List.sum_cons, freedBy]

theorem Event.named?_eq_none {e : Event} (h : e.isBooking = false) (n : Nat) : e.named? n = none := by
  cases e with
  | tagged k o id => cases h
  | _ => rfl

theorem Event.freed_eq_zero {e : Event} (h : e.isBooking = false) (n : Nat) : e.freed n = 0 := by
  cases e with
  | released k count => cases h
  | _ => rfl

/-! ### What leaves the books alone -/

/-- From one world to another nothing was booked, and the objects known in the end were known
before or have been born since. -/
structure World.Unbooked (w v : World H) : Prop where
  journal : v.journal = w.journal
  registry : ∀ n, v.registry n = w.registry n
  births : w.births ≤ v.births
  known : ∀ o ∈ v.known, o ∈ w.known ∨ w.births ≤ o.serial

namespace World.Unbooked

theorem host (w : World H) (h : H) : w.Unbooked { w with host := h } :=
  ⟨rfl, fun _ => rfl, Nat.le_refl _, fun _ => .inl⟩

theorem sweep (w : World H) (keeps : H → List ObjectRef → List ObjectRef) (held : List ObjectRef) :
    w.Unbooked (w.sweep keeps held) :=
  ⟨rfl, fun _ => rfl, Nat.le_refl _, fun _ ho => .inl (List.mem_filter.1 ho).1⟩

theorem create (w : World H) (typeName : String) (place : Nat) (store : ObjectRef → H → H) :
    w.Unbooked (w.create typeName place store).2 := by
  refine ⟨rfl, fun _ => rfl, Nat.le_succ _, fun o ho => ?_⟩
  rcases List.mem_cons.1 ho with rfl | ho
  · exact .inr (Nat.le_refl _)
  · exact .inl ho

theorem setSession (w : World H) (s : Nat) (t : Session) : w.Unbooked (w.setSession s t) :=
  ⟨rfl, fun _ => rfl, Nat.le_refl _, fun _ => .inl⟩

theorem openSession (w : World H) (share : Option Nat) : w.Unbooked (w.openSession share).2 := by
  have hsame : (w.openSession share).2.journal = w.journal ∧ (w.openSession share).2.births = w.births ∧
      (w.openSession share).2.known = w.known := by
    unfold World.openSession
    split <;> exact ⟨rfl, rfl, rfl⟩
  obtain ⟨hjournal, hbirths, hknown⟩ := hsame
  exact ⟨hjournal, w.registry_openSession share, Nat.le_of_eq hbirths.symm, fun o ho => .inl (hknown ▸ ho)⟩

end World.Unbooked

/-- `Good` is preserved by all that is booked, and by all that leaves the books alone. -/
structure Host.Books (D : Host H) (Good : World H → Prop) : Prop where
  unbooked : ∀ {w v : World H}, w.Unbooked v → Good w → Good v
  note : ∀ {w : World H} {e : Event}, e.isBooking = false → e.isReturn = false → Good w → Good (w.note e)
  returned : ∀ {w : World H} {r : Request} {reply : r.Reply}, w.Accounts → Good w →
    Good (w.note (.returned r reply w.toMoment))
  tag : ∀ {w : World H} {n : Nat} {o : ObjectRef}, w.Accounts → n < w.registries.length → o ∈ w.known →
    Good w → Good (w.tag n o).2
  purge : ∀ {w : World H} (held : List ObjectRef) (n : Nat), w.Accounts → Good w →
    Good (w.purge D.keeps held n).2

/-- Every move of the world is one of these, and leaves the accounts in order. -/
theorem Host.Books.moves {D : Host H} {Good : World H → Prop} (books : D.Books Good) :
    D.Moves fun held w => (w.Accounts ∧ ∀ o ∈ held, o ∈ w.known) ∧ Good w where
  fewer hfewer h := ⟨D.accounts_moves.fewer hfewer h.1, h.2⟩
  grasp vs h := ⟨D.accounts_moves.grasp vs h.1, h.2⟩
  host change h := ⟨D.accounts_moves.host change h.1, books.unbooked (.host _ _) h.2⟩
  swept h := ⟨D.accounts_moves.swept h.1, books.unbooked (.sweep _ _ _) h.2⟩
  create typeName place store h :=
    ⟨D.accounts_moves.create typeName place store h.1, books.unbooked (.create _ _ _ _) h.2⟩
  asked o h := ⟨D.accounts_moves.asked o h.1, books.note rfl rfl h.2⟩
  answered o answer h := ⟨D.accounts_moves.answered o answer h.1, books.note rfl rfl h.2⟩
  tag hn ho h :=
    ⟨D.accounts_moves.tag hn ho h.1, books.tag h.1.1 (h.1.1.lt_of_registryOf? hn) (h.1.2 _ ho) h.2⟩
  rendered hn hstart hrun h := ⟨D.accounts_moves.rendered hn hstart.1 hrun h.1, books.note rfl rfl h.2⟩
  captured hn hhead h := ⟨D.accounts_moves.captured hn hhead h.1, books.note rfl rfl h.2⟩
  setSession ht h := ⟨D.accounts_moves.setSession ht h.1, books.unbooked (.setSession _ _ _) h.2⟩
  openSession share h := ⟨D.accounts_moves.openSession share h.1, books.unbooked (.openSession _ _) h.2⟩
  purge n h := ⟨D.accounts_moves.purge n h.1, books.purge _ n h.1.1 h.2⟩
  returned hr h := ⟨D.accounts_moves.returned hr h.1, books.returned h.1.1 h.2⟩

/-! ### The balance -/

/-- What a registry has named is in its slots, or has been released from them. -/
def World.Balanced (w : World H) : Prop :=
  ∀ n, (w.registry n).size + freedBy n w.journal = (namedBy n w.journal).length

/-- The machinery stands as the journal says: the slots of a registry are those of the
objects that it has named, less those that were released, and no living object has lost its
own. -/
structure Moment.Ledger (m : Moment) (j : List Event) : Prop where
  size : ∀ n, (m.registry n).size + freedBy n j = (namedBy n j).length
  /-- the objects that are counted are different ones -/
  distinct : ∀ n, ((namedBy n j).map ObjectRef.serial).Nodup
  living : ∀ {n id : Nat} {o : ObjectRef}, .tagged n o id ∈ j → o ∈ m.known → (m.registry n).get? o = some id
  owner : ∀ {n : Nat} {slot : Slot}, slot ∈ (m.registry n).slots →
    ∃ o, .tagged n o slot.id ∈ j ∧ o.serial = slot.owner

theorem World.Accounts.ledger {w : World H} (h : w.Accounts) (hbalanced : w.Balanced) :
    w.toMoment.Ledger w.journal := by
  refine ⟨hbalanced, fun n => ?_, h.still, h.source⟩
  refine List.Nodup.map_on (fun o ho p hp hserial => ?_) (List.nodup_dedup _)
  obtain ⟨id, hid⟩ := mem_namedBy.1 ho
  obtain ⟨id', hid'⟩ := mem_namedBy.1 hp
  exact h.one (.inr ⟨n, id, hid⟩) (.inr ⟨n, id', hid'⟩) hserial

namespace World.Balanced

variable {w v : World H}

theorem start (h : H) (outlet : Option Outlet) : (World.start h outlet).Balanced := by
  intro n
  cases n <;> rfl

theorem unbooked (hv : w.Unbooked v) (h : w.Balanced) : v.Balanced := by
  intro n
  rw [hv.registry, hv.journal]
  exact h n

theorem note {e : Event} (he : e.isBooking = false) (h : w.Balanced) : (w.note e).Balanced := by
  intro n
  show (w.registry n).size + freedBy n (e :: w.journal) = (namedBy n (e :: w.journal)).length
  rw [freedBy_cons, Event.freed_eq_zero he, Nat.zero_add, namedBy_cons (Event.named?_eq_none he n)]
  exact h n

/-- A tag adds a slot exactly if the object has not been named before. -/
theorem tag (haccounts : w.Accounts) {n : Nat} {o : ObjectRef} (hn : n < w.registries.length)
    (ho : o ∈ w.known) (h : w.Balanced) : (w.tag n o).2.Balanced := by
  intro k
  show ((w.tag n o).2.registry k).size + freedBy k (.tagged n o ((w.registry n).idOf o).1 :: w.journal) =
    (namedBy k (.tagged n o ((w.registry n).idOf o).1 :: w.journal)).length
  rw [registry_tag hn, freedBy_cons, show Event.freed k (.tagged n o ((w.registry n).idOf o).1) = 0 from rfl,
    Nat.zero_add]
  by_cases hk : k = n
  · subst hk
    rw [if_pos rfl]
    have hnamed : Event.named? k (.tagged k o ((w.registry k).idOf o).1) = some o := if_pos rfl
    cases hget : (w.registry k).get? o with
    | some id =>
      have hold : o ∈ namedBy k w.journal := mem_namedBy.2 ⟨id, haccounts.tagged_of_get? ho hget⟩
      rw [namedBy_cons_old hnamed hold, Registry.idOf_of_get? hget]
      exact h k
    | none =>
      have hnew : o ∉ namedBy k w.journal := by
        intro hold
        obtain ⟨id, hid⟩ := mem_namedBy.1 hold
        have hsome := haccounts.still hid ho
        rw [hget] at hsome
        cases hsome
      rw [namedBy_cons_new hnamed hnew, List.length_cons, ← h k, Registry.size,
        (Registry.idOf_of_get?_none hget).2.2, List.length_append, Registry.size]
      simp only [List.length_cons, List.length_nil]
      omega
  · have hnamed : Event.named? k (.tagged n o ((w.registry n).idOf o).1) = none := if_neg (Ne.symm hk)
    rw [if_neg hk, namedBy_cons hnamed]
    exact h k

/-- A purge writes off the slots that it takes away. -/
theorem purge (keeps : H → List ObjectRef → List ObjectRef) (held : List ObjectRef) (n : Nat) (h : w.Balanced) :
    (w.purge keeps held n).2.Balanced := by
  intro k
  obtain ⟨count, hcount, hjournal⟩ : ∃ count,
      count = ((w.registry n).purge (w.sweep keeps held).isKnown).1 ∧
        (w.purge keeps held n).2.journal = .released n count :: w.journal := ⟨_, rfl, rfl⟩
  rw [hjournal, freedBy_cons, namedBy_cons rfl, registry_purge_eq, ← h k]
  by_cases hk : k = n
  · subst hk
    have hle := List.length_filter_le ((w.sweep keeps held).isKnown ·.owner) (w.registry k).slots
    have hsize : ((w.registry k).purge (w.sweep keeps held).isKnown).2.size + count = (w.registry k).size := by
      rw [hcount, Registry.size, Registry.slots_purge]
      exact Nat.add_sub_cancel' hle
    rw [if_pos rfl, show Event.freed k (.released k count) = count from if_pos rfl, ← Nat.add_assoc, hsize]
  · rw [if_neg hk, show Event.freed k (.released n count) = 0 from if_neg (Ne.symm hk), Nat.zero_add]

end World.Balanced

/-- The books balance after every step, and did at every return. -/
theorem Host.ledger_books (D : Host H) :
    D.Books fun w => w.Balanced ∧ EachReturn (fun _ _ m earlier => m.Ledger earlier) w.journal where
  unbooked hv h := ⟨h.1.unbooked hv, hv.journal ▸ h.2⟩
  note he hreturn h := ⟨h.1.note he, h.2.note hreturn⟩
  returned haccounts h := ⟨h.1.note rfl, h.2.returned (haccounts.ledger h.1)⟩
  tag haccounts hn ho h := ⟨h.1.tag haccounts hn ho, h.2.note rfl⟩
  purge held n _ h := ⟨h.1.purge D.keeps held n, h.2.note rfl⟩

/-! ### Slots stay until a purge -/

/-- Since `w` a registry has been purged, or its slots are all still there. -/
def World.SlotsStay (n : Nat) (w v : World H) : Prop :=
  ∃ since, v.journal = since ++ w.journal ∧
    ((∃ count, .released n count ∈ since) ∨ (w.registry n).slots <+: (v.registry n).slots)

namespace World.SlotsStay

variable {n : Nat} {w v u : World H}

theorem refl (n : Nat) (w : World H) : w.SlotsStay n w :=
  ⟨[], rfl, .inr (List.prefix_refl _)⟩

/-- Something was done that left the slots there, or purged the registry. -/
theorem step {e : Event} (h : w.SlotsStay n v) (hjournal : u.journal = e :: v.journal)
    (he : (∃ count, e = .released n count) ∨ (v.registry n).slots <+: (u.registry n).slots) :
    w.SlotsStay n u := by
  obtain ⟨since, hsince, hslots⟩ := h
  refine ⟨e :: since, by rw [hjournal, hsince]; rfl, ?_⟩
  rcases he with ⟨count, rfl⟩ | he
  · exact .inl ⟨count, List.mem_cons_self⟩
  · rcases hslots with ⟨count, hcount⟩ | hkept
    · exact .inl ⟨count, List.mem_cons_of_mem _ hcount⟩
    · exact .inr (hkept.trans he)

end World.SlotsStay

/-- To name an object takes no slot away. -/
theorem Registry.slots_idOf_prefix (r : Registry) (o : ObjectRef) : r.slots <+: (r.idOf o).2.slots := by
  cases h : r.get? o with
  | some id => simp only [idOf_of_get? h, List.prefix_refl]
  | none => simp only [(idOf_of_get?_none h).2.2, List.prefix_append]

/-- Whatever is done, the slots of a registry stay until it is purged. -/
theorem Host.slots_books (D : Host H) (n : Nat) (w : World H) : D.Books (w.SlotsStay n) where
  unbooked hv h := by
    obtain ⟨since, hsince, hslots⟩ := h
    refine ⟨since, hv.journal.trans hsince, ?_⟩
    rw [hv.registry]
    exact hslots
  note _ _ h := h.step rfl (.inr (List.prefix_refl _))
  returned _ h := h.step rfl (.inr (List.prefix_refl _))
  tag {v k o} _ hk _ h := by
    refine h.step rfl (.inr ?_)
    rw [World.registry_tag hk]
    split
    · rename_i hn
      rw [hn]
      exact Registry.slots_idOf_prefix _ o
    · exact List.prefix_refl _
  purge {v} held k _ h := by
    by_cases hk : n = k
    · subst hk
      exact h.step rfl (.inl ⟨_, rfl⟩)
    · refine h.step rfl (.inr ?_)
      simp only [World.registry_purge_eq, if_neg hk, List.prefix_refl]

/-! ### What a purge releases -/

/-- Whether the object of that birth lives: it has not been found dead, and it is held or the
host keeps it. -/
def World.lives (w : World H) (keeps : H → List ObjectRef → List ObjectRef) (held : List ObjectRef)
    (serial : Nat) : Bool :=
  w.known.any fun o => o.serial = serial ∧ (o ∈ held ∨ o ∈ keeps w.host held)

theorem World.isKnown_sweep (w : World H) (keeps : H → List ObjectRef → List ObjectRef) (held : List ObjectRef)
    (serial : Nat) : (w.sweep keeps held).isKnown serial = w.lives keeps held serial := by
  simp only [isKnown, sweep, lives, List.any_filter, List.mem_append]
  congr 1
  funext o
  rw [Bool.and_comm]
  simp

/-- From one world to another a registry has lost the slots of dead objects, exactly those,
and their number was noted. -/
structure World.Releases (keeps : H → List ObjectRef → List ObjectRef) (held : List ObjectRef) (n count : Nat)
    (w v : World H) : Prop where
  slots : (v.registry n).slots = (w.registry n).slots.filter (w.lives keeps held ·.owner)
  number : count = (w.registry n).slots.countP (!w.lives keeps held ·.owner)
  others : ∀ k, k ≠ n → v.registry k = w.registry k
  journal : v.journal = .released n count :: w.journal

theorem length_sub_filter {β : Type} (p : β → Bool) (l : List β) :
    l.length - (l.filter p).length = l.countP (!p ·) := by
  have h := l.length_eq_countP_add_countP p
  rw [List.countP_eq_length_filter] at h
  have hnot : l.countP (fun a => decide ¬ p a = true) = l.countP (!p ·) :=
    List.countP_congr fun a _ => by simp
  omega

theorem World.releases_purge (w : World H) (keeps : H → List ObjectRef → List ObjectRef) (held : List ObjectRef)
    (n : Nat) : w.Releases keeps held n (w.purge keeps held n).1 (w.purge keeps held n).2 := by
  have halive : (w.sweep keeps held).isKnown = w.lives keeps held := funext (w.isKnown_sweep keeps held)
  refine ⟨?_, ?_, fun k hk => ?_, rfl⟩
  · rw [registry_purge_eq, if_pos rfl, Registry.slots_purge, halive]
  · rw [← length_sub_filter, ← halive]
    rfl
  · rw [registry_purge_eq, if_neg hk]

/-! ### A second purge -/

/-- An object was known in `w`, or was born later. -/
def World.KnownOrLater (w : World H) (o : ObjectRef) : Prop :=
  o ∈ w.known ∨ w.births ≤ o.serial

/-- A registry has slots only of objects that were known in `w` or were born later, and no
others are known now. -/
structure World.Renewed (n : Nat) (w v : World H) : Prop where
  births : w.births ≤ v.births
  known : ∀ o ∈ v.known, w.KnownOrLater o
  slots : ∀ slot ∈ (v.registry n).slots, ∃ o, v.Tagged n o slot.id ∧ o.serial = slot.owner ∧ w.KnownOrLater o

theorem World.Renewed.note {n : Nat} {w v : World H} (h : w.Renewed n v) (e : Event) : w.Renewed n (v.note e) := by
  refine ⟨h.births, h.known, fun slot hslot => ?_⟩
  obtain ⟨o, ho, howner⟩ := h.slots slot hslot
  exact ⟨o, List.mem_cons_of_mem _ ho, howner⟩

/-- What was noted in the beginning does not matter. -/
theorem World.Renewed.note_start {n : Nat} {w v : World H} (h : w.Renewed n v) (e : Event) :
    (w.note e).Renewed n v :=
  ⟨h.births, h.known, h.slots⟩

/-- Once dead objects have no slots, they never have one again. -/
theorem Host.renewed_books (D : Host H) (n : Nat) (w : World H) : D.Books (w.Renewed n) where
  unbooked hv h := by
    refine ⟨Nat.le_trans h.births hv.births, fun o ho => ?_, fun slot hslot => ?_⟩
    · rcases hv.known o ho with ho | ho
      · exact h.known o ho
      · exact .inr (Nat.le_trans h.births ho)
    · rw [hv.registry] at hslot
      simpa only [World.Tagged, hv.journal] using h.slots slot hslot
  note _ _ h := h.note _
  returned _ h := h.note _
  tag {v k o} _ hk ho h := by
    refine ⟨h.births, h.known, fun slot hslot => ?_⟩
    rcases World.mem_slots_tag hk hslot with hslot | ⟨rfl, hget, rfl⟩
    · obtain ⟨p, hp, howner⟩ := h.slots slot hslot
      exact ⟨p, List.mem_cons_of_mem _ hp, howner⟩
    · refine ⟨o, World.tagged_tag.2 (.inl ⟨rfl, rfl, ?_⟩), rfl, h.known o ho⟩
      exact (Registry.idOf_of_get?_none hget).1.symm
  purge {v} held k _ h := by
    refine ⟨h.births, fun o ho => h.known o (List.mem_filter.1 ho).1, fun slot hslot => ?_⟩
    have hold : slot ∈ (v.registry n).slots := by
      rcases v.registry_purge D.keeps held k n with heq | heq <;> rw [heq] at hslot
      · exact hslot
      · exact (List.mem_filter.1 hslot).1
    simpa only [World.tagged_purge] using h.slots slot hold

/-- Right after a purge a registry has slots only of objects that are known. -/
theorem World.renewed_purge {w : World H} (haccounts : w.Accounts) (keeps : H → List ObjectRef → List ObjectRef)
    (held : List ObjectRef) (n : Nat) : (w.purge keeps held n).2.Renewed n (w.purge keeps held n).2 := by
  have hpurged := haccounts.purge keeps held n
  refine ⟨Nat.le_refl _, fun o ho => .inl ho, fun slot hslot => ?_⟩
  obtain ⟨o, ho, howner⟩ := hpurged.source hslot
  rw [registry_purge_eq, if_pos rfl, Registry.slots_purge, List.mem_filter] at hslot
  obtain ⟨p, hp, hserial⟩ := List.any_eq_true.1 hslot.2
  have hsame : p = o := hpurged.one (.inl hp) (.inr ⟨n, slot.id, ho⟩) (by simpa [howner] using hserial)
  exact ⟨o, ho, howner, .inl (hsame ▸ hp)⟩

/-- Since `w` nothing that a registry has named has been dropped: what was known then or was
born later lives. -/
def World.NoDrop (keeps : H → List ObjectRef → List ObjectRef) (held : List ObjectRef) (n : Nat) (w v : World H) :
    Prop :=
  ∀ o id, v.Tagged n o id → w.KnownOrLater o → v.lives keeps held o.serial = true

/-- A purge releases nothing where nothing has been dropped since another one. -/
theorem World.Renewed.purge_eq_zero {keeps : H → List ObjectRef → List ObjectRef} {held : List ObjectRef} {n : Nat}
    {w v : World H} (h : w.Renewed n v) (hdrop : w.NoDrop keeps held n v) : (v.purge keeps held n).1 = 0 := by
  rw [(v.releases_purge keeps held n).number, List.countP_eq_zero]
  intro slot hslot
  obtain ⟨o, ho, howner, hknown⟩ := h.slots slot hslot
  have hlives := hdrop o slot.id ho hknown
  rw [howner] at hlives
  simp [hlives]

/-! ### Who releases slots -/

/-- A request that purges a registry returned: a purge with the number of slots that it
released, or the exit from an entry frame. -/
def Event.Purges (n count : Nat) : Event → Prop
  | .returned (.purge s) reply after => after.registryOf? s = some n ∧ reply = count
  | .returned (.exitEntry s) reply after => after.registryOf? s = some n ∧ reply = .ok ()
  | _ => False

/-- What was done right after slots were released is the return of the request that purged. -/
def EachRelease (j : List Event) : Prop :=
  ∀ (later earlier : List Event) (n count : Nat), j = later ++ .released n count :: earlier →
    ∃ e, later.getLast? = some e ∧ e.Purges n count

namespace EachRelease

variable {j : List Event}

theorem note {e : Event} (he : ∀ n count, e ≠ .released n count) (h : EachRelease j) : EachRelease (e :: j) := by
  intro later earlier n count hsplit
  cases later with
  | nil => exact absurd (List.cons.inj hsplit).1 (he n count)
  | cons first later =>
    obtain ⟨last, hlast, hpurges⟩ := h later earlier n count (List.cons.inj hsplit).2
    exact ⟨last, by rw [List.getLast?_cons, hlast]; rfl, hpurges⟩

/-- The return of a request releases nothing. -/
theorem returned {r : Request} {reply : r.Reply} {after : Moment} (h : EachRelease j) :
    EachRelease (.returned r reply after :: j) :=
  h.note nofun

/-- Nor does a name. -/
theorem tagged {n id : Nat} {o : ObjectRef} (h : EachRelease j) : EachRelease (.tagged n o id :: j) :=
  h.note nofun

theorem purged {e : Event} {n count : Nat} (he : e.Purges n count) (h : EachRelease j) :
    EachRelease (e :: .released n count :: j) := by
  intro later earlier k count' hsplit
  match later with
  | [] =>
    rw [(List.cons.inj hsplit).1] at he
    exact he.elim
  | [first] =>
    obtain ⟨rfl, hrest⟩ := List.cons.inj hsplit
    cases (List.cons.inj hrest).1
    exact ⟨_, rfl, he⟩
  | first :: second :: later =>
    obtain ⟨last, hlast, hpurges⟩ := h later earlier k count' (List.cons.inj (List.cons.inj hsplit).2).2
    exact ⟨last, by rw [List.getLast?_cons, List.getLast?_cons, hlast]; rfl, hpurges⟩

end EachRelease

/-- The exit from an entry frame is refused and changes nothing, or the session takes it and
its registry is purged. -/
theorem World.perform_exitEntry (w : World H) (keeps : H → List ObjectRef → List ObjectRef) (ask : Asking H)
    (held : List ObjectRef) {s n : Nat} (hs : w.registryOf? s = some n) :
    (∃ fault, w.perform keeps ask held (.exitEntry s) = (.error fault, w)) ∨
      ∃ t, t.registry = (w.session s).registry ∧
        w.perform keeps ask held (.exitEntry s) = (.ok (), ((w.setSession s t).purge keeps held n).2) := by
  have hn : (w.session s).registry = n := by
    obtain ⟨session, hsession, rfl⟩ := Option.map_eq_some_iff.1 hs
    rw [Moment.session, List.getD_eq_getElem?_getD, hsession, Option.getD_some]
  have hleft : (∃ fault, w.updateLive s Session.exitEntry = (.error fault, w)) ∨
      ∃ t, t.registry = (w.session s).registry ∧ w.updateLive s Session.exitEntry = (.ok (), w.setSession s t) := by
    unfold updateLive update
    split
    · exact .inl ⟨_, rfl⟩
    · cases hstep : Session.exitEntry (w.session s) with
      | error fault => exact .inl ⟨fault, rfl⟩
      | ok stepped => exact .inr ⟨stepped.2, Session.settled_exitEntry hstep, rfl⟩
  rcases hleft with ⟨fault, hleft⟩ | ⟨t, ht, hleft⟩
  · exact .inl ⟨fault, by simp only [perform, hleft]⟩
  · exact .inr ⟨t, ht, by simp only [perform, hleft, hn]⟩

/-- A session that has no registry is complete. -/
theorem World.perform_exitEntry_none (w : World H) (keeps : H → List ObjectRef → List ObjectRef) (ask : Asking H)
    (held : List ObjectRef) {s : Nat} (hs : w.registryOf? s = none) :
    w.perform keeps ask held (.exitEntry s) = (.error .sessionComplete, w) := by
  have hcomplete : (w.session s).complete = true := by
    by_contra hlive
    obtain ⟨n, hn⟩ := registryOf?_of_live (by simpa using hlive)
    rw [hs] at hn
    cases hn
  simp only [perform, updateLive, if_pos hcomplete]

/-- Only purges release slots, and each of them says so at once. -/
theorem Host.released_rule (D : Host H) : D.Rule fun _ w => EachRelease w.journal where
  fewer _ h := h
  grasp _ h := h
  host _ h := h
  swept h := h
  create _ _ _ h := h
  asked _ h := h.note nofun
  answered _ _ h := h.note nofun
  tag _ _ h := h.tagged
  rendered _ _ _ h := h.note nofun
  refused _ h := h.returned
  recorded {held u w r done s n vs rs} _ _ _ _ _ hdone h := by
    cases r with
    | enterEntry s m vs | enterCandidate s m vs | matchChain s m vs =>
      cases hdone
      rw [World.updateLive_eq]
      exact (h.note (e := .captured _ _) nofun).returned
    | _ => cases hdone
  shown _ _ h := h.returned
  silent {held w ask r} hr h := by
    cases r with
    | exitEntry s =>
      cases hs : w.registryOf? s with
      | none =>
        rw [World.perform_exitEntry_none _ _ _ _ hs]
        exact h.returned
      | some n =>
        rcases w.perform_exitEntry D.keeps ask held hs with ⟨fault, hdone⟩ | ⟨t, ht, hdone⟩ <;> rw [hdone]
        · exact h.returned
        · exact h.purged ⟨(World.registryOf?_setSession ht s).trans hs, rfl⟩
    | purge s =>
      cases hs : w.registryOf? s with
      | none =>
        simp only [World.perform, hs]
        exact h.returned
      | some n =>
        simp only [World.perform, hs]
        exact h.purged ⟨hs, rfl⟩
    | exitCandidate s | discover s offered =>
      simp only [World.perform, World.updateLive_eq]
      exact h.returned
    | identify s v =>
      simp only [World.perform]
      split
      · exact h.tagged.returned
      · exact h.returned
    | lookup s v =>
      simp only [World.perform]
      split <;> exact h.returned
    | openSession share =>
      have hjournal : (w.openSession share).2.journal = w.journal := (World.Unbooked.openSession w share).journal
      exact EachRelease.returned (hjournal.symm ▸ h)
    | look s | frames s | sent s => exact h.returned
    | _ => cases hr

/-! ### All runs -/

/-- What the requests on a registry do at a point of a run, while handles are held. -/
structure Host.Bookkeeping (D : Host H) (level : Nat) (held : List ObjectRef) (u : World H) : Prop where
  /-- to look an object up changes nothing -/
  lookup : ∀ s v, (u.perform D.keeps (D.ask level) held (.lookup s v)).2 = u
  /-- nor does it change anything to ask for the identity of what is no object -/
  nothing : ∀ s v, (u.grasp v).object? = none →
    u.perform D.keeps (D.ask level) held (.identify s v) = (nullIdentity, u)
  /-- a purge releases exactly the slots of dead objects, and returns their number -/
  purge : ∀ {s n : Nat}, u.registryOf? s = some n →
    let purged := u.perform D.keeps (D.ask level) held (.purge s)
    u.Releases D.keeps held n purged.1 purged.2
  /-- so does the exit from an entry frame, if it is not refused -/
  exit : ∀ {s n : Nat}, u.registryOf? s = some n →
    let left := u.perform D.keeps (D.ask level) held (.exitEntry s)
    (∃ fault, left = (.error fault, u)) ∨ (left.1 = .ok () ∧ ∃ count, u.Releases D.keeps held n count left.2)
  /-- a second purge with no drop in between releases nothing -/
  again : ∀ {s n : Nat}, u.registryOf? s = some n → ∀ between : Activity H Unit,
    let first := World.serve D.keeps (D.ask level) held (.purge s) u
    let v := (D.act (D.ask level) held between first.2).2
    first.2.NoDrop D.keeps held n v → (World.serve D.keeps (D.ask level) held (.purge s) v).1 = 0
  /-- whatever host code does, slots go by purges only -/
  stays : ∀ (n : Nat) (a : Activity H Unit), u.SlotsStay n (D.act (D.ask level) held a u).2

theorem World.serve_purge {u : World H} {s n : Nat} (hs : u.registryOf? s = some n)
    (keeps : H → List ObjectRef → List ObjectRef) (ask : Asking H) (held : List ObjectRef) :
    World.serve keeps ask held (.purge s) u = ((u.purge keeps held n).1, (u.purge keeps held n).2.note
      (.returned (.purge s) (u.purge keeps held n).1 (u.purge keeps held n).2.toMoment)) := by
  have hpurged : u.perform keeps ask held (.purge s) = u.purge keeps held n := by
    simp only [World.perform, hs]
  show (_, World.conclude (.purge s) (u.perform keeps ask held (.purge s))) = _
  rw [hpurged]
  rfl

/-- Whatever host code does after a purge, another one releases nothing without a drop. -/
theorem Host.purge_again (D : Host H) (level : Nat) {held : List ObjectRef} {u : World H} (haccounts : u.Accounts)
    (hheld : ∀ o ∈ held, o ∈ u.known) {s n : Nat} (hs : u.registryOf? s = some n) (between : Activity H Unit) :
    let first := World.serve D.keeps (D.ask level) held (.purge s) u
    let v := (D.act (D.ask level) held between first.2).2
    first.2.NoDrop D.keeps held n v → (World.serve D.keeps (D.ask level) held (.purge s) v).1 = 0 := by
  rw [World.serve_purge hs]
  intro first v hdrop
  have hknown : ∀ o ∈ held, o ∈ first.2.known := fun o ho => u.known_sweep D.keeps ho (hheld o ho)
  have hafter : first.2.Accounts := (haccounts.purge D.keeps held n).note nofun
  have hrenewed : first.2.Renewed n first.2 :=
    ((World.renewed_purge haccounts D.keeps held n).note _).note_start _
  have hrule := (D.renewed_books n first.2).moves.rule
  obtain ⟨hend, hgrows⟩ := hrule.activity (hrule.ask level) between ⟨⟨hafter, hknown⟩, hrenewed⟩
  have hv : v.registryOf? s = some n := hgrows.registryOf hs
  rw [World.serve_purge hv]
  exact hend.2.purge_eq_zero hdrop

/-- At every point of a run the books are kept like this. -/
theorem Host.bookkeeping (D : Host H) (level : Nat) {held : List ObjectRef} {u : World H} (haccounts : u.Accounts)
    (hheld : ∀ o ∈ held, o ∈ u.known) : D.Bookkeeping level held u where
  lookup s v := by
    simp only [World.perform]
    split <;> rfl
  nothing s v hv := by
    cases hs : u.registryOf? s <;> simp only [World.perform, hs, hv]
  purge {s n} hs := by
    simp only [World.perform, hs]
    exact u.releases_purge D.keeps held n
  exit {s n} hs := by
    rcases u.perform_exitEntry D.keeps (D.ask level) held hs with hrefused | ⟨t, -, hdone⟩
    · exact .inl hrefused
    · refine .inr ⟨by rw [hdone], ((u.setSession s t).purge D.keeps held n).1, ?_⟩
      rw [hdone]
      obtain ⟨hslots, hnumber, hothers, hjournal⟩ := (u.setSession s t).releases_purge D.keeps held n
      exact ⟨hslots, hnumber, hothers, hjournal⟩
  again hs between := D.purge_again level haccounts hheld hs between
  stays n a := by
    have hrule := (D.slots_books n u).moves.rule
    obtain ⟨⟨-, hstays⟩, -⟩ := hrule.activity (hrule.ask level) a ⟨⟨haccounts, hheld⟩, .refl n u⟩
    exact hstays

/-- **Every slot of a registry is accounted for.** After any run of any host code, and at
every return on the way, a registry has as many slots as it has named different objects,
less the slots that were released; an object that has not been found dead still has the
identity that it was given; and slots were released by purges only. At every point where
the accounts are in order, as they are all along a run, the requests on a registry keep its
books. -/
theorem Host.registry_ledger (D : Host H) (level : Nat) :
    (∀ (a : Activity H Unit) (h : H) (outlet : Option Outlet),
      let w := (D.run level a (World.start h outlet)).2
      w.Accounts ∧ w.toMoment.Ledger w.journal ∧ EachReturn (fun _ _ m earlier => m.Ledger earlier) w.journal ∧
        EachRelease w.journal) ∧
      ∀ (u : World H) (held : List ObjectRef), u.Accounts → (∀ o ∈ held, o ∈ u.known) →
        D.Bookkeeping level held u := by
  constructor
  · intro a h outlet w
    have hstart : (World.start h outlet).Balanced ∧
        EachReturn (fun _ _ m earlier => m.Ledger earlier) (World.start h outlet).journal :=
      ⟨World.Balanced.start h outlet, fun later _ _ _ _ hsplit => by cases later <;> cases hsplit⟩
    obtain ⟨⟨haccounts, -⟩, hbalanced, hreturns⟩ :
        (w.Accounts ∧ ∀ o ∈ [], o ∈ w.known) ∧ w.Balanced ∧
          EachReturn (fun _ _ m earlier => m.Ledger earlier) w.journal :=
      D.ledger_books.moves.rule.run ⟨⟨World.Accounts.start h outlet, nofun⟩, hstart⟩
    have hreleases : EachRelease w.journal :=
      D.released_rule.run (a := a) fun later _ _ _ hsplit => by cases later <;> cases hsplit
    exact ⟨haccounts, haccounts.ledger hbalanced, hreturns, hreleases⟩
  · intro u held haccounts hheld
    exact D.bookkeeping level haccounts hheld

/-- Both cells are named, and the second one is dropped: a purge releases its slot, and
another one releases nothing. -/
theorem cells_purged :
    let u := ((cellsWorld.tag 0 (cell 0)).2.tag 0 (cell 1)).2
    let purged := u.perform cellsHost.keeps (cellsHost.ask 1) [cell 0] (.purge 0)
    let first := World.serve cellsHost.keeps (cellsHost.ask 1) [cell 0] (.purge 0) u
    u.Releases cellsHost.keeps [cell 0] 0 purged.1 purged.2 ∧ purged.1 = 1 ∧
      (World.serve cellsHost.keeps (cellsHost.ask 1) [cell 0] (.purge 0) first.2).1 = 0 := by
  have haccounts : ((cellsWorld.tag 0 (cell 0)).2.tag 0 (cell 1)).2.Accounts := by
    have hfirst := accounts_cellsWorld.tag (n := 0) (o := cell 0) (by decide) (by decide)
    exact hfirst.tag (by decide) (by decide)
  obtain ⟨-, hpoint⟩ := Host.registry_ledger cellsHost 1
  have hbooks := hpoint _ [cell 0] haccounts (by decide)
  refine ⟨hbooks.purge rfl, by decide +kernel, hbooks.again rfl (.done ()) ?_⟩
  -- of the objects that were named only the first cell is known after the purge
  rintro o id ho (hknown | hlater)
  · obtain rfl : o = cell 0 := by
      have hmem := (List.mem_filter.1 hknown).2
      simpa [cellsHost] using hmem
    decide +kernel
  · have hnamed : ((cellsWorld.tag 0 (cell 0)).2.tag 0 (cell 1)).2.Tagged 0 o id := by
      rcases List.mem_cons.1 ho with hreturned | ho
      · cases hreturned
      · exact (List.mem_cons.1 ho).resolve_left nofun
    exact absurd (haccounts.young (.inr ⟨0, id, hnamed⟩)) (Nat.not_lt_of_le hlater)

end CallChain
