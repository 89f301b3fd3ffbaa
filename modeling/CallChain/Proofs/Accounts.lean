/-
# The accounts of identities

What is true of the registries and of the tags they have given, at every point of a
run. The invariant is `World.Accounts`. Its heart is that a registered slot belongs to
the object that lies at its address, as long as that object lives: a new object never
lies at an address that a slot reserves, and a purge releases only slots of objects
that are dead for good. So an object that has a tag keeps it until it dies, and no
other object ever gets it.

Key definitions: `World.Tagged`, `World.Accounts`.
Key theorems: `World.Accounts.create`, `World.Accounts.tag`, `World.Accounts.purge`,
`Host.accounts_moves`.
-/
import CallChain.Proofs.RunRule
import Mathlib.Data.List.Nodup

namespace CallChain

variable {H : Type}

/-! ### Slots -/

namespace Registry

/-- An identity that an object has is that of the slot where the object lies. -/
theorem get?_eq_some_iff {r : Registry} {o : ObjectRef} {id : Nat} :
    r.get? o = some id ↔ ∃ slot ∈ r.slots, slot.address = o.address ∧ slot.id = id := by
  constructor
  · intro h
    obtain ⟨slot, hslot, hid⟩ := Option.map_eq_some_iff.1 h
    have haddress : slot.address = o.address := by simpa using List.find?_some hslot
    exact ⟨slot, List.mem_of_find?_eq_some hslot, haddress, hid⟩
  · rintro ⟨slot, hslot, haddress, rfl⟩
    cases hfound : r.slot? o with
    | none =>
      exact absurd (List.mem_map.2 ⟨slot, hslot, haddress⟩) (address_free hfound)
    | some found =>
      have hat : found.address = o.address := by simpa using List.find?_some hfound
      have hsame : found = slot := List.inj_on_of_nodup_map r.addresses_nodup
        (List.mem_of_find?_eq_some hfound) hslot (hat.trans haddress.symm)
      rw [get?, hfound, Option.map_some, hsame]

/-- To name an object takes no identity from another one. -/
theorem get?_idOf_of_get? {r : Registry} {o p : ObjectRef} {id : Nat} (h : r.get? p = some id) :
    (r.idOf o).2.get? p = some id := by
  cases ho : r.get? o with
  | some _ => rw [idOf_of_get? ho]; exact h
  | none =>
    obtain ⟨slot, hslot, hp⟩ := get?_eq_some_iff.1 h
    refine get?_eq_some_iff.2 ⟨slot, ?_, hp⟩
    rw [(idOf_of_get?_none ho).2.2]
    exact List.mem_append_left _ hslot

/-- Objects with one identity lie at one place. -/
theorem address_eq_of_get? {r : Registry} {o p : ObjectRef} {id : Nat} (ho : r.get? o = some id)
    (hp : r.get? p = some id) : o.address = p.address := by
  obtain ⟨slot, hslot, haddress, hid⟩ := get?_eq_some_iff.1 ho
  obtain ⟨slot', hslot', haddress', hid'⟩ := get?_eq_some_iff.1 hp
  have hsame : slot = slot' := List.inj_on_of_nodup_map r.ids_nodup hslot hslot' (hid.trans hid'.symm)
  rw [← haddress, ← haddress', hsame]

end Registry

namespace World

/-! ### Addresses -/

theorem le_foldl {α : Type} {f : Nat → α → Nat} (hf : ∀ top a, top ≤ f top a) :
    ∀ (l : List α) (top : Nat), top ≤ l.foldl f top
  | [], _ => Nat.le_refl _
  | a :: l, top => Nat.le_trans (hf top a) (le_foldl hf l (f top a))

/-- What one step reaches is not above the end. -/
theorem le_foldl_of_mem {α : Type} {f : Nat → α → Nat} (hf : ∀ top a, top ≤ f top a) {a : α} {bound : Nat}
    (ha : ∀ top, bound ≤ f top a) : ∀ {l : List α} (top : Nat), a ∈ l → bound ≤ l.foldl f top
  | b :: l, top, h => by
    rcases List.mem_cons.1 h with rfl | h
    · exact Nat.le_trans (ha top) (le_foldl hf l _)
    · exact le_foldl_of_mem hf ha (f top b) h

/-- A new object lies where no known object lies and where no slot is reserved. -/
theorem newborn_free (w : World H) (typeName : String) (place : Nat) :
    (∀ p ∈ w.known, p.address ≠ (w.newborn typeName place).address) ∧
      ∀ r ∈ w.registries, ∀ slot ∈ r.slots, slot.address ≠ (w.newborn typeName place).address := by
  by_cases htaken : w.taken place = true
  · have haddress : (w.newborn typeName place).address = w.beyond := by simp [newborn, htaken]
    have hslots : ∀ (top : Nat) (r : Registry), top ≤ r.slots.foldl (fun top s => max top s.address) top :=
      fun top r => le_foldl (fun top s => Nat.le_max_left top s.address) r.slots top
    rw [haddress, beyond]
    refine ⟨fun p hp heq => ?_, fun r hr slot hslot heq => ?_⟩
    · have hknown : p.address ≤ w.known.foldl (fun top o => max top o.address) 0 :=
        le_foldl_of_mem (fun top o => Nat.le_max_left top o.address)
          (fun top => Nat.le_max_right top p.address) 0 hp
      have hbeyond := le_foldl hslots w.registries (w.known.foldl (fun top o => max top o.address) 0)
      omega
    · have hreserved : ∀ top, slot.address ≤ r.slots.foldl (fun top s => max top s.address) top :=
        fun top => le_foldl_of_mem (fun top s => Nat.le_max_left top s.address)
          (fun top => Nat.le_max_right top slot.address) top hslot
      have hbeyond := le_foldl_of_mem hslots hreserved
        (w.known.foldl (fun top o => max top o.address) 0) hr
      omega
  · have haddress : (w.newborn typeName place).address = place := by simp [newborn, htaken]
    rw [haddress]
    simp only [taken, Registry.reserves, Bool.or_eq_true, List.any_eq_true, decide_eq_true_eq,
      not_or, not_exists, not_and] at htaken
    exact htaken

/-! ### The invariant -/

/-- A registry gave an object an identity. -/
def Tagged (w : World H) (n : Nat) (o : ObjectRef) (id : Nat) : Prop :=
  .tagged n o id ∈ w.journal

/-- A world has met the objects that it knows and those that were ever named. -/
def Met (w : World H) (o : ObjectRef) : Prop :=
  o ∈ w.known ∨ ∃ n id, w.Tagged n o id

/-- The registries and the tags they have given are in order. -/
structure Accounts (w : World H) : Prop where
  young : ∀ {o : ObjectRef}, w.Met o → o.serial < w.births
  one : ∀ {o p : ObjectRef}, w.Met o → w.Met p → o.serial = p.serial → o = p
  apart : ∀ {o p : ObjectRef}, o ∈ w.known → p ∈ w.known → o.address = p.address → o = p
  registered : ∀ s ∈ w.sessions, s.registry < w.registries.length
  /-- the slot at the place of a living object is its own -/
  owned : ∀ {n : Nat} {slot : Slot} {o : ObjectRef}, slot ∈ (w.registry n).slots → o ∈ w.known →
    slot.address = o.address → slot.owner = o.serial
  source : ∀ {n : Nat} {slot : Slot}, slot ∈ (w.registry n).slots →
    ∃ o, w.Tagged n o slot.id ∧ o.serial = slot.owner
  given : ∀ {n id : Nat} {o : ObjectRef}, w.Tagged n o id → 0 < id ∧ id < (w.registry n).next
  /-- a living object still has the tag it was given -/
  still : ∀ {n id : Nat} {o : ObjectRef}, w.Tagged n o id → o ∈ w.known →
    (w.registry n).get? o = some id
  faithful : ∀ {n id id' : Nat} {o p : ObjectRef}, w.Tagged n o id → w.Tagged n p id' →
    (id = id' ↔ o = p)

theorem registry_setRegistry {w : World H} {n : Nat} (hn : n < w.registries.length) (r : Registry) (k : Nat) :
    (w.setRegistry n r).registry k = if k = n then r else w.registry k := by
  simp only [Moment.registry, setRegistry, List.getD_eq_getElem?_getD]
  by_cases hk : n = k
  · subst hk
    simp [hn]
  · simp [hk, Ne.symm hk]

theorem known_of_grasp {w : World H} {vs : List Value} {o : ObjectRef}
    (h : o ∈ Value.objects (vs.map w.grasp)) : o ∈ w.known := by
  obtain ⟨v, -, hv⟩ := List.mem_map.1 (Value.mem_objects.1 h)
  cases v with
  | scalar s => cases hv
  | object p =>
    simp only [grasp] at hv
    split at hv
    · cases hv
      assumption
    · cases hv

/-- What is held is not forgotten. -/
theorem known_sweep (w : World H) (keeps : H → List ObjectRef → List ObjectRef) {held : List ObjectRef}
    {o : ObjectRef} (ho : o ∈ held) (hknown : o ∈ w.known) : o ∈ (w.sweep keeps held).known :=
  List.mem_filter.2 ⟨hknown, by simpa using Or.inl ho⟩

/-! ### What naming and purging do -/

theorem length_registries_tag (w : World H) (n : Nat) (o : ObjectRef) :
    (w.tag n o).2.registries.length = w.registries.length := by
  simp [tag, note, setRegistry]

theorem registry_tag {w : World H} {n : Nat} (hn : n < w.registries.length) (o : ObjectRef) (k : Nat) :
    (w.tag n o).2.registry k = if k = n then ((w.registry n).idOf o).2 else w.registry k :=
  registry_setRegistry hn _ k

theorem tagged_tag {w : World H} {n k id : Nat} {o p : ObjectRef} : (w.tag n o).2.Tagged k p id ↔
    (k = n ∧ p = o ∧ id = ((w.registry n).idOf o).1) ∨ w.Tagged k p id := by
  simp [Tagged, tag, note, setRegistry]

/-- A tag leaves the slots as they are, or adds one for an object that has none. -/
theorem mem_slots_tag {w : World H} {n k : Nat} {o : ObjectRef} {slot : Slot} (hn : n < w.registries.length)
    (h : slot ∈ ((w.tag n o).2.registry k).slots) : slot ∈ (w.registry k).slots ∨
    (k = n ∧ (w.registry n).get? o = none ∧ slot = ⟨o.address, o.serial, (w.registry n).next⟩) := by
  rw [registry_tag hn] at h
  by_cases hk : k = n
  · subst hk
    rw [if_pos rfl] at h
    cases hget : (w.registry k).get? o with
    | some id =>
      rw [Registry.idOf_of_get? hget] at h
      exact .inl h
    | none =>
      rw [(Registry.idOf_of_get?_none hget).2.2] at h
      exact (List.mem_append.1 h).imp_right fun hslot => ⟨rfl, rfl, List.mem_singleton.1 hslot⟩
  · rw [if_neg hk] at h
    exact .inl h

/-- An object that is known needs no tag to be met. -/
theorem Met.of_tag {w : World H} {n : Nat} {o p : ObjectRef} (ho : o ∈ w.known) (hp : (w.tag n o).2.Met p) :
    w.Met p := by
  rcases hp with hp | ⟨k, id, hp⟩
  · exact .inl hp
  · rcases tagged_tag.1 hp with ⟨-, rfl, -⟩ | hp
    · exact .inl ho
    · exact .inr ⟨k, id, hp⟩

theorem tagged_purge {w : World H} {keeps : H → List ObjectRef → List ObjectRef} {held : List ObjectRef}
    {n k id : Nat} {o : ObjectRef} : (w.purge keeps held n).2.Tagged k o id ↔ w.Tagged k o id := by
  simp [Tagged, purge, note, setRegistry, sweep]

/-- A purge concerns one registry; one that is not there has nothing to release. -/
theorem registry_purge_eq (w : World H) (keeps : H → List ObjectRef → List ObjectRef) (held : List ObjectRef)
    (n k : Nat) : (w.purge keeps held n).2.registry k =
    if k = n then ((w.registry n).purge (w.sweep keeps held).isKnown).2 else w.registry k := by
  by_cases hn : n < w.registries.length
  · exact registry_setRegistry (w := w.sweep keeps held) hn
      (((w.sweep keeps held).registry n).purge (w.sweep keeps held).isKnown).2 k
  · have hsame : ∀ r, (w.sweep keeps held).setRegistry n r = w.sweep keeps held := fun r => by
      simp [setRegistry, sweep, List.set_eq_of_length_le (Nat.le_of_not_lt hn)]
    have hempty : w.registry n = .empty := by
      simp [Moment.registry, List.getD_eq_getElem?_getD, hn]
    simp only [purge, note, hsame]
    split
    · rename_i hk
      rw [hk, hempty]
      exact hempty
    · rfl

/-- A purge leaves a registry as it is, or purges it. -/
theorem registry_purge (w : World H) (keeps : H → List ObjectRef → List ObjectRef) (held : List ObjectRef)
    (n k : Nat) : (w.purge keeps held n).2.registry k = w.registry k ∨
    (w.purge keeps held n).2.registry k = ((w.registry k).purge (w.sweep keeps held).isKnown).2 := by
  rw [registry_purge_eq]
  split
  · rename_i hk
    rw [hk]
    exact .inr rfl
  · exact .inl rfl

/-- To open a session changes no registry; one that is not there yet counts as empty. -/
theorem registry_openSession (w : World H) (share : Option Nat) (n : Nat) :
    (w.openSession share).2.registry n = w.registry n := by
  unfold openSession
  split
  · rfl
  · simp only [Moment.registry, List.getD_eq_getElem?_getD, List.getElem?_append]
    split
    · rfl
    · rename_i hn
      rw [List.getElem?_eq_none (Nat.le_of_not_lt hn)]
      cases hk : n - w.registries.length <;> rfl

/-! ### The moves keep the accounts -/

namespace Accounts

variable {w v : World H}

theorem start (h : H) (outlet : Option Outlet) : (World.start h outlet).Accounts := by
  have hmet : ∀ o, ¬ (World.start h outlet).Met o := by simp [Met, Tagged, World.start]
  have hslots : ∀ n, ((World.start h outlet).registry n).slots = [] := by
    intro n
    cases n <;> rfl
  have htagged : ∀ n o id, ¬ (World.start h outlet).Tagged n o id := by simp [Tagged, World.start]
  exact {
    young := fun ho => absurd ho (hmet _)
    one := fun ho => absurd ho (hmet _)
    apart := fun ho => absurd (.inl ho) (hmet _)
    registered := by simp [World.start, Session.fresh]
    owned := fun hslot => by rw [hslots] at hslot; cases hslot
    source := fun hslot => by rw [hslots] at hslot; cases hslot
    given := fun ho => absurd ho (htagged _ _ _)
    still := fun ho => absurd ho (htagged _ _ _)
    faithful := fun ho => absurd ho (htagged _ _ _) }

/-- The accounts concern the objects, the registries and the tags. -/
theorem congr (h : w.Accounts) (hknown : v.known = w.known) (hbirths : v.births = w.births)
    (hregistered : ∀ s ∈ v.sessions, s.registry < v.registries.length)
    (hregistry : ∀ n, v.registry n = w.registry n)
    (htagged : ∀ n o id, v.Tagged n o id ↔ w.Tagged n o id) : v.Accounts := by
  have hmet : ∀ o, v.Met o ↔ w.Met o := by simp only [Met, hknown, htagged, implies_true]
  exact {
    young := fun ho => hbirths ▸ h.young ((hmet _).1 ho)
    one := fun ho hp => h.one ((hmet _).1 ho) ((hmet _).1 hp)
    apart := fun ho hp => h.apart (hknown ▸ ho) (hknown ▸ hp)
    registered := hregistered
    owned := fun hslot ho => h.owned (hregistry _ ▸ hslot) (hknown ▸ ho)
    source := fun hslot => by simpa only [htagged] using h.source (hregistry _ ▸ hslot)
    given := fun ho => hregistry _ ▸ h.given ((htagged _ _ _).1 ho)
    still := fun ho hknow => hregistry _ ▸ h.still ((htagged _ _ _).1 ho) (hknown ▸ hknow)
    faithful := fun ho hp => h.faithful ((htagged _ _ _).1 ho) ((htagged _ _ _).1 hp) }

/-- A note that is not about a tag. -/
theorem note (h : w.Accounts) {e : Event} (he : ∀ n o id, e ≠ .tagged n o id) : (w.note e).Accounts :=
  h.congr rfl rfl h.registered (fun _ => rfl) fun n o id => by
    simp [Tagged, World.note, Ne.symm (he n o id)]

theorem setSession (h : w.Accounts) {n : Nat} {t : Session} (ht : t.registry = (w.session n).registry) :
    (w.setSession n t).Accounts := by
  refine h.congr rfl rfl (fun s hs => ?_) (fun _ => rfl) (fun _ _ _ => Iff.rfl)
  rcases List.mem_or_eq_of_mem_set hs with hs | rfl
  · exact h.registered s hs
  · by_cases hn : n < w.sessions.length
    · rw [ht, session_eq_getElem hn]
      exact h.registered _ (List.getElem_mem hn)
    · exact h.registered s (by rwa [World.setSession, List.set_eq_of_length_le (Nat.le_of_not_lt hn)] at hs)

theorem openSession (h : w.Accounts) (share : Option Nat) : (w.openSession share).2.Accounts := by
  unfold World.openSession
  split
  · rename_i n hshare
    refine h.congr rfl rfl (fun s hs => ?_) (fun _ => rfl) (fun _ _ _ => Iff.rfl)
    rcases List.mem_append.1 hs with hs | hs
    · exact h.registered s hs
    · obtain ⟨k, -, hk⟩ := Option.bind_eq_some_iff.1 hshare
      obtain ⟨session, hsession, hn⟩ := Option.map_eq_some_iff.1 hk
      rw [List.mem_singleton.1 hs]
      exact hn ▸ h.registered session (List.mem_of_getElem? hsession)
  · rename_i hshare
    refine h.congr rfl rfl (fun s hs => ?_) (fun n => ?_) (fun _ _ _ => Iff.rfl)
    · rw [List.length_append]
      rcases List.mem_append.1 hs with hs | hs
      · exact Nat.lt_add_right 1 (h.registered s hs)
      · rw [List.mem_singleton.1 hs]
        exact Nat.lt_succ_self _
    · have hregistry := w.registry_openSession share n
      simpa only [World.openSession, hshare] using hregistry

/-- A new object is unlike all that were met, and lies where nothing is. -/
theorem create (h : w.Accounts) (typeName : String) (place : Nat) (store : ObjectRef → H → H) :
    (w.create typeName place store).2.Accounts := by
  obtain ⟨hknown, hreserved⟩ := w.newborn_free typeName place
  have hserial : (w.newborn typeName place).serial = w.births := rfl
  generalize hnew : w.newborn typeName place = new at hknown hreserved hserial
  have hcreate : (w.create typeName place store).2 =
      { w with host := store new w.host, births := w.births + 1, known := new :: w.known } := by
    rw [← hnew]
    rfl
  rw [hcreate]
  have hmet : ∀ {o : ObjectRef}, o ∈ new :: w.known ∨ (∃ n id, w.Tagged n o id) → o = new ∨ w.Met o := by
    intro o ho
    rcases ho with ho | ho
    · exact (List.mem_cons.1 ho).imp_right .inl
    · exact .inr (.inr ho)
  have hother : ∀ {o : ObjectRef}, w.Met o → o.serial ≠ new.serial := by
    intro o ho heq
    have := h.young ho
    omega
  have hslots : ∀ {n : Nat} {slot : Slot}, slot ∈ (w.registry n).slots → slot.address ≠ new.address := by
    intro n slot hslot
    by_cases hn : n < w.registries.length
    · simp only [Moment.registry, List.getD_eq_getElem?_getD, List.getElem?_eq_getElem hn,
        Option.getD_some] at hslot
      exact hreserved _ (List.getElem_mem hn) slot hslot
    · simp [Moment.registry, List.getD_eq_getElem?_getD, hn, Registry.empty] at hslot
  exact {
    young := fun ho => by
      rcases hmet ho with rfl | ho
      · exact Nat.lt_succ_of_le (Nat.le_of_eq hserial)
      · exact Nat.lt_succ_of_lt (h.young ho)
    one := fun ho hp heq => by
      rcases hmet ho with hnewo | ho <;> rcases hmet hp with hnewp | hp
      · exact hnewo.trans hnewp.symm
      · exact absurd (hnewo ▸ heq.symm) (hother hp)
      · exact absurd (hnewp ▸ heq) (hother ho)
      · exact h.one ho hp heq
    apart := fun ho hp heq => by
      rcases List.mem_cons.1 ho with hnewo | ho <;> rcases List.mem_cons.1 hp with hnewp | hp
      · exact hnewo.trans hnewp.symm
      · exact absurd (hnewo ▸ heq.symm) (hknown _ hp)
      · exact absurd (hnewp ▸ heq) (hknown _ ho)
      · exact h.apart ho hp heq
    registered := h.registered
    owned := fun hslot ho heq => by
      rcases List.mem_cons.1 ho with rfl | ho
      · exact absurd heq (hslots hslot)
      · exact h.owned hslot ho heq
    source := fun hslot => h.source hslot
    given := fun ho => h.given ho
    still := fun ho hknow => by
      rcases List.mem_cons.1 hknow with rfl | hknow
      · exact absurd rfl (hother (.inr ⟨_, _, ho⟩))
      · exact h.still ho hknow
    faithful := fun ho hp => h.faithful ho hp }

/-- To forget objects takes nothing from the others. -/
theorem sweep (h : w.Accounts) (keeps : H → List ObjectRef → List ObjectRef) (held : List ObjectRef) :
    (w.sweep keeps held).Accounts := by
  have hknown : ∀ {o : ObjectRef}, o ∈ (w.sweep keeps held).known → o ∈ w.known :=
    fun ho => (List.mem_filter.1 ho).1
  have hmet : ∀ {o : ObjectRef}, (w.sweep keeps held).Met o → w.Met o := fun ho => ho.imp_left hknown
  exact {
    young := fun ho => h.young (hmet ho)
    one := fun ho hp => h.one (hmet ho) (hmet hp)
    apart := fun ho hp => h.apart (hknown ho) (hknown hp)
    registered := h.registered
    owned := fun hslot ho => h.owned hslot (hknown ho)
    source := fun hslot => h.source hslot
    given := fun ho => h.given ho
    still := fun ho hknow => h.still ho (hknown hknow)
    faithful := fun ho hp => h.faithful ho hp }

/-- A purge forgets the dead, and of the slots only theirs go. -/
theorem purge (h : w.Accounts) (keeps : H → List ObjectRef → List ObjectRef) (held : List ObjectRef)
    (n : Nat) : (w.purge keeps held n).2.Accounts := by
  have hswept := h.sweep keeps held
  have hmet : ∀ {o : ObjectRef}, (w.purge keeps held n).2.Met o → (w.sweep keeps held).Met o := by
    rintro o (ho | ⟨k, id, hid⟩)
    · exact .inl ho
    · have hold : w.Tagged k o id := tagged_purge.1 hid
      exact .inr ⟨k, id, hold⟩
  have hslots : ∀ {k : Nat} {slot : Slot}, slot ∈ ((w.purge keeps held n).2.registry k).slots →
      slot ∈ (w.registry k).slots := by
    intro k slot hslot
    rcases w.registry_purge keeps held n k with heq | heq <;> rw [heq] at hslot
    · exact hslot
    · exact (List.mem_filter.1 hslot).1
  exact {
    young := fun ho => hswept.young (hmet ho)
    one := fun ho hp => hswept.one (hmet ho) (hmet hp)
    apart := hswept.apart
    registered := fun s hs => by
      simpa [World.purge, World.note, World.setRegistry, World.sweep] using h.registered s hs
    owned := fun hslot ho => hswept.owned (hslots hslot) ho
    source := fun hslot => by
      simpa only [tagged_purge] using h.source (hslots hslot)
    given := fun {k id o} ho => by
      have hgiven := h.given (tagged_purge.1 ho)
      rcases w.registry_purge keeps held n k with heq | heq <;> rw [heq]
      · exact hgiven
      · rw [Registry.next_purge]
        exact hgiven
    still := fun {k id o} ho hknow => by
      have hold : w.Tagged k o id := tagged_purge.1 ho
      have hget := hswept.still hold hknow
      rcases w.registry_purge keeps held n k with heq | heq <;> rw [heq]
      · exact hget
      · -- the owner of the slot is known still
        obtain ⟨slot, hslot, haddress, hid⟩ := Registry.get?_eq_some_iff.1 hget
        refine Registry.get?_eq_some_iff.2 ⟨slot, List.mem_filter.2 ⟨hslot, ?_⟩, haddress, hid⟩
        rw [World.isKnown, List.any_eq_true]
        exact ⟨o, hknow, by simp [hswept.owned hslot hknow haddress]⟩
    faithful := fun ho hp => h.faithful (tagged_purge.1 ho) (tagged_purge.1 hp) }

/-- The identity that a registry has for a living object was given to that object. -/
theorem tagged_of_get? (h : w.Accounts) {n id : Nat} {o : ObjectRef} (ho : o ∈ w.known)
    (hget : (w.registry n).get? o = some id) : w.Tagged n o id := by
  obtain ⟨slot, hslot, haddress, rfl⟩ := Registry.get?_eq_some_iff.1 hget
  obtain ⟨p, hp, hserial⟩ := h.source hslot
  obtain rfl : p = o := h.one (.inr ⟨_, _, hp⟩) (.inl ho) (hserial.trans (h.owned hslot ho haddress))
  exact hp

/-- An object without a tag is given one that no object ever had. -/
theorem tag_new (h : w.Accounts) {n : Nat} {o : ObjectRef} (hn : n < w.registries.length) (ho : o ∈ w.known)
    (hget : (w.registry n).get? o = none) : (w.tag n o).2.Accounts := by
  obtain ⟨hid, hnext, -⟩ := Registry.idOf_of_get?_none hget
  have hfresh : ∀ {id : Nat}, ¬ w.Tagged n o id := by
    intro id hid
    rw [h.still hid ho] at hget
    cases hget
  have htagged : ∀ {k id : Nat} {p : ObjectRef}, (w.tag n o).2.Tagged k p id ↔
      (k = n ∧ p = o ∧ id = (w.registry n).next) ∨ w.Tagged k p id := by
    simp only [tagged_tag, hid, implies_true]
  exact {
    young := fun hp => h.young (hp.of_tag ho)
    one := fun hp hq => h.one (hp.of_tag ho) (hq.of_tag ho)
    apart := h.apart
    registered := fun s hs => length_registries_tag w n o ▸ h.registered s hs
    owned := fun hs hp haddress => by
      rcases mem_slots_tag hn hs with hs | ⟨rfl, -, rfl⟩
      · exact h.owned hs hp haddress
      · exact congrArg ObjectRef.serial (h.apart ho hp haddress)
    source := fun hs => by
      rcases mem_slots_tag hn hs with hs | ⟨rfl, -, rfl⟩
      · obtain ⟨p, hp, hserial⟩ := h.source hs
        exact ⟨p, htagged.2 (.inr hp), hserial⟩
      · exact ⟨o, htagged.2 (.inl ⟨rfl, rfl, rfl⟩), rfl⟩
    given := fun {k id p} hp => by
      rw [registry_tag hn]
      rcases htagged.1 hp with ⟨rfl, rfl, rfl⟩ | hp
      · rw [if_pos rfl, hnext]
        exact ⟨(w.registry k).next_pos, Nat.lt_succ_self _⟩
      · have hgiven := h.given hp
        split
        · subst k
          rw [hnext]
          exact ⟨hgiven.1, Nat.lt_succ_of_lt hgiven.2⟩
        · exact hgiven
    still := fun {k id p} hp hknow => by
      rw [registry_tag hn]
      rcases htagged.1 hp with ⟨rfl, rfl, rfl⟩ | hp
      · rw [if_pos rfl, Registry.get?_idOf, hid]
      · split
        · subst k
          exact Registry.get?_idOf_of_get? (h.still hp hknow)
        · exact h.still hp hknow
    faithful := fun {k id id' p q} hp hq => by
      -- no object had the next identity before, and `o` had none
      rcases htagged.1 hp with ⟨rfl, rfl, rfl⟩ | hold <;> rcases htagged.1 hq with ⟨hk, rfl, rfl⟩ | hold'
      · exact iff_of_true rfl rfl
      · refine iff_of_false (fun heq => ?_) (fun heq => hfresh (heq ▸ hold'))
        have := (h.given hold').2
        omega
      · subst k
        refine iff_of_false (fun heq => ?_) (fun heq => hfresh (heq ▸ hold))
        have := (h.given hold).2
        omega
      · exact h.faithful hold hold' }

/-- A tag is the one that the object has already, or a new one. -/
theorem tag (h : w.Accounts) {n : Nat} {o : ObjectRef} (hn : n < w.registries.length) (ho : o ∈ w.known) :
    (w.tag n o).2.Accounts := by
  cases hget : (w.registry n).get? o with
  | some id =>
    have hold := h.tagged_of_get? ho hget
    have hid : (w.registry n).idOf o = (id, w.registry n) := Registry.idOf_of_get? hget
    refine h.congr rfl rfl (fun s hs => length_registries_tag w n o ▸ h.registered s hs) (fun k => ?_)
      (fun k p i => ?_)
    · rw [registry_tag hn, hid]
      split
      · subst k
        rfl
      · rfl
    · rw [tagged_tag, hid]
      refine or_iff_right_of_imp fun hnew => ?_
      obtain ⟨rfl, rfl, rfl⟩ := hnew
      exact hold
  | none => exact h.tag_new hn ho hget

/-- A session's registry is there. -/
theorem lt_of_registryOf? (h : w.Accounts) {s n : Nat} (hs : w.registryOf? s = some n) :
    n < w.registries.length := by
  obtain ⟨session, hsession, rfl⟩ := Option.map_eq_some_iff.1 hs
  exact h.registered session (List.mem_of_getElem? hsession)

end Accounts

end World

/-- The accounts are in order after every move, and what is held is not found dead. -/
theorem Host.accounts_moves (D : Host H) :
    D.Moves fun held w => w.Accounts ∧ ∀ o ∈ held, o ∈ w.known where
  fewer hfewer h := ⟨h.1, fun o ho => h.2 o (hfewer o ho)⟩
  grasp vs h := ⟨h.1, fun o ho => (List.mem_append.1 ho).elim (h.2 o) World.known_of_grasp⟩
  host _ h := ⟨h.1.congr rfl rfl h.1.registered (fun _ => rfl) fun _ _ _ => Iff.rfl, h.2⟩
  swept {held w} h := ⟨h.1.sweep _ _, fun o ho => w.known_sweep D.keeps ho (h.2 o ho)⟩
  create typeName place store h :=
    ⟨h.1.create typeName place store, fun o ho => List.mem_cons_of_mem _ (h.2 o ho)⟩
  asked _ h := ⟨h.1.note nofun, h.2⟩
  answered _ _ h := ⟨h.1.note nofun, h.2⟩
  tag hn ho h := ⟨h.1.tag (h.1.lt_of_registryOf? hn) (h.2 _ ho), h.2⟩
  rendered _ _ _ h := ⟨h.1.note nofun, h.2⟩
  captured _ _ h := ⟨h.1.note nofun, h.2⟩
  setSession ht h := ⟨h.1.setSession ht, h.2⟩
  openSession share h := by
    refine ⟨h.1.openSession share, fun o ho => ?_⟩
    unfold World.openSession
    split <;> exact h.2 o ho
  purge {held w} n h := ⟨h.1.purge _ _ n, fun o ho => w.known_sweep D.keeps ho (h.2 o ho)⟩
  returned _ h := ⟨h.1.note nofun, h.2⟩

end CallChain
