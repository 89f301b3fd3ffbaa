/-
# Where an artifact goes

A sink that writes to a path may be refused any step: to make the directories above it, to
open what it leads to, to write there or to flush. Each of these leaves something different
behind, and yet each emission brings the artifact somewhere: to the file at the path, which
holds nothing else, to the device at the path, which is given nothing else, or, after a
refusal, to standard output as a line. What a device does with it is not up to the sink, and
the null device keeps nothing.

What an emission leaves behind is a tree that has grown (`FileTree.Extends`): no entry is
lost, directories are added, and one file at most is new or holds another text. So a path that
led somewhere still leads there. That is why the file that changes can be told from the tree
at the end, after one emission and after many, whatever other names the file has and whatever
links lead to it.

Key definitions: `FileTree.Extends`, `FileTree.LeadsTo`, `FileTree.At`, `FileTree.Holds`,
`FileTree.Hindered`, `Disk.Outcome`, `Disk.Delivered`, `Sink.emitEach`.
Key theorems: `FileTree.extends_makeDirectories`, `FileTree.Extends.resolve`,
`FileTree.leadsTo_of_openForWriting`, `Disk.written_writeText`, `Sink.delivered_emit`,
`Settings.artifacts_delivered`.
-/
import CallChain.Output.Settings
import Mathlib.Control.Monad.Basic

namespace CallChain

/-- Two steps end well if the first one does and the second one does after it. -/
theorem bind_eq_ok {ε α β : Type} {x : Except ε α} {f : α → Except ε β} {b : β} :
    (x >>= f) = .ok b ↔ ∃ a, x = .ok a ∧ f a = .ok b := by
  cases x with
  | error e => exact ⟨nofun, by rintro ⟨a, ha, -⟩; cases ha⟩
  | ok a => exact ⟨fun h => ⟨a, rfl, h⟩, by rintro ⟨a', ha, h⟩; cases ha; exact h⟩

namespace FileTree

/-! ### Entries and files -/

theorem lookup_filter_of_ne {β : Type} {place other : Place} (h : other ≠ place) (entries : List (Place × β)) :
    (entries.filter fun e => e.1 ≠ place).lookup other = entries.lookup other := by
  induction entries with
  | nil => rfl
  | cons first rest ih =>
    obtain ⟨here, e⟩ := first
    by_cases hhere : here = place
    · subst hhere
      rw [List.filter_cons_of_neg (by simp), List.lookup_cons, beq_eq_false_iff_ne.2 h]
      exact ih
    · rw [List.filter_cons_of_pos (by simpa using hhere), List.lookup_cons, List.lookup_cons, ih]

theorem entry?_put_of_ne {t : FileTree} {place other : Place} {e : Entry}
    (he : e.isAmong t.texts.length = true) (h : other ≠ place) :
    entry? (t.put place e he) other = t.entry? other := by
  have hother : (other == place) = false := by simpa using h
  simp only [put, List.lookup_cons, hother, lookup_filter_of_ne h, entry?]

theorem entry?_put {t : FileTree} {place : Place} {e : Entry} (he : e.isAmong t.texts.length = true)
    (h : place ≠ []) : entry? (t.put place e he) place = some e := by
  simp [put, h, entry?]

theorem ne_nil_of_absent {t : FileTree} {place : Place} (h : t.entry? place = none) : place ≠ [] :=
  fun hroot => by simp [hroot, entry?] at h

theorem entry?_addDirectory {t : FileTree} {place : Place} (h : t.entry? place = none) (other : Place) :
    entry? (t.addDirectory place) other = if other = place then some .directory else t.entry? other := by
  split
  · rename_i heq
    rw [heq]
    exact entry?_put _ (ne_nil_of_absent h)
  · rename_i hne
    exact entry?_put_of_ne _ hne

theorem entry?_addFile {t : FileTree} {place : Place} (h : t.entry? place = none) (other : Place) :
    entry? (t.addFile place) other = if other = place then some (.file t.texts.length) else t.entry? other := by
  split
  · rename_i heq
    rw [heq]
    exact entry?_put _ (ne_nil_of_absent h)
  · rename_i hne
    exact entry?_put_of_ne _ hne

/-- A name in a tree is the name of one of its files. -/
theorem number_lt_of_name {t : FileTree} {place : Place} {number : Nat} (h : t.entry? place = some (.file number)) :
    number < t.texts.length := by
  unfold entry? at h
  split at h
  · cases h
  · obtain ⟨before, after, hentries, -⟩ := List.lookup_eq_some_iff.1 h
    have hamong := t.named (place, .file number) (by simp [hentries])
    simpa [Entry.isAmong] using hamong

/-! ### Trees that grow -/

/-- A tree has grown out of another one: every entry is what it was, and all that is new beside
directories, or holds another text than before, are files that may have changed, told by place
and number. -/
structure Extends (changed : Place → Nat → Prop) (t u : FileTree) : Prop where
  start : u.start = t.start
  count : t.texts.length ≤ u.texts.length
  entries : ∀ place e, t.entry? place = some e → u.entry? place = some e
  fresh : ∀ place e, u.entry? place = some e → t.entry? place = some e ∨ e = .directory ∨
    ∃ number, e = .file number ∧ t.texts.length ≤ number ∧ changed place number
  texts : ∀ number, number < t.texts.length → (∀ place, ¬ changed place number) →
    u.texts[number]? = t.texts[number]?

namespace Extends

variable {changed changed' : Place → Nat → Prop} {t u v : FileTree}

theorem refl (changed : Place → Nat → Prop) (t : FileTree) : t.Extends changed t :=
  ⟨rfl, Nat.le_refl _, fun _ _ => id, fun _ _ => .inl, fun _ _ _ => rfl⟩

theorem trans (h : t.Extends changed u) (h' : u.Extends changed v) : t.Extends changed v where
  start := h'.start.trans h.start
  count := Nat.le_trans h.count h'.count
  entries place e he := h'.entries place e (h.entries place e he)
  fresh place e he := by
    obtain hold | hdirectory | ⟨number, rfl, hnew, hchanged⟩ := h'.fresh place e he
    · exact h.fresh place e hold
    · exact .inr (.inl hdirectory)
    · exact .inr (.inr ⟨number, rfl, Nat.le_trans h.count hnew, hchanged⟩)
  texts number hlt hsame :=
    (h'.texts number (Nat.lt_of_lt_of_le hlt h.count) hsame).trans (h.texts number hlt hsame)

theorem mono (hchanged : ∀ place number, changed place number → changed' place number) (h : t.Extends changed u) :
    t.Extends changed' u where
  start := h.start
  count := h.count
  entries := h.entries
  fresh place e he := (h.fresh place e he).imp_right fun hnew =>
    hnew.imp_right fun ⟨number, hfile, hlt, hnumber⟩ => ⟨number, hfile, hlt, hchanged place number hnumber⟩
  texts number hlt hsame := h.texts number hlt fun place hnumber => hsame place (hchanged place number hnumber)

/-- A directory is made where nothing was. -/
theorem addDirectory {place : Place} (h : t.entry? place = none) : t.Extends changed (t.addDirectory place) where
  start := rfl
  count := Nat.le_refl _
  entries other e he := by
    rw [entry?_addDirectory h, if_neg (by rintro rfl; simp [h] at he), he]
  fresh other e he := by
    rw [entry?_addDirectory h] at he
    split at he
    · exact .inr (.inl (Option.some.inj he).symm)
    · exact .inl he
  texts _ _ _ := rfl

/-- A file is made where nothing was. -/
theorem addFile {place : Place} (h : t.entry? place = none) :
    t.Extends (fun other number => other = place ∧ number = t.texts.length) (t.addFile place) where
  start := rfl
  count := by simp [FileTree.addFile, addText, put]
  entries other e he := by
    rw [entry?_addFile h, if_neg (by rintro rfl; simp [h] at he), he]
  fresh other e he := by
    rw [entry?_addFile h] at he
    split at he
    · rename_i hother
      exact .inr (.inr ⟨_, (Option.some.inj he).symm, Nat.le_refl _, hother, rfl⟩)
    · exact .inl he
  texts number hlt _ := by
    simp [FileTree.addFile, addText, put, List.getElem?_append_left hlt]

/-- The text of a file is replaced. -/
theorem setText (t : FileTree) (place : Place) (number : Nat) (text : String) :
    t.Extends (fun other n => other = place ∧ n = number) (t.setText number text) where
  start := rfl
  count := by simp [FileTree.setText]
  entries _ _ := id
  fresh _ _ := .inl
  texts other _ hsame := by
    have hne : number ≠ other := fun heq => hsame place ⟨rfl, heq.symm⟩
    simp [FileTree.setText, List.getElem?_set_ne hne]

end Extends

/-! ### Where paths lead -/

section Paths

variable {changed : Place → Nat → Prop} {t u : FileTree}

theorem Extends.isDirectory (h : t.Extends changed u) {place : Place} (hplace : t.isDirectory place = true) :
    u.isDirectory place = true := by
  simpa [FileTree.isDirectory] using h.entries place .directory (by simpa [FileTree.isDirectory] using hplace)

theorem isDirectory_of_along {place next : Place} {part : PathPart} (h : t.along place part = .ok next) :
    t.isDirectory place = true := by
  unfold along at h
  split at h
  · cases h
  · rename_i hdirectory
    simpa using hdirectory

theorem Extends.along (h : t.Extends changed u) {place next : Place} {part : PathPart}
    (halong : t.along place part = .ok next) : u.along place part = .ok next := by
  have hu : u.isDirectory place = true := h.isDirectory (isDirectory_of_along halong)
  have ht : t.isDirectory place = true := isDirectory_of_along halong
  unfold FileTree.along at halong ⊢
  rw [if_neg (by simp [ht])] at halong
  rw [if_neg (by simp [hu])]
  exact halong

variable {making : Bool} {last : Place}

/-- The parts of a path lead where they led before, when the tree has grown, if links do. Where
a file was to be made they lead to the file. -/
theorem Extends.resolveThrough (h : t.Extends changed u)
    (hlast : making = true → t.entry? last = none → ∃ number, u.entry? last = some (.file number))
    {follow follow' : Bool → Place → List PathPart → Except Refusal Place}
    (hfollow : ∀ slash place parts, follow slash place parts = .ok last → follow' slash place parts = .ok last)
    {slash : Bool} : ∀ {parts : List PathPart} {place : Place},
    t.resolveThrough making follow slash place parts = .ok last →
      u.resolveThrough false follow' slash place parts = .ok last
  | [], place, hparts => by
    unfold FileTree.resolveThrough at hparts ⊢
    split at hparts
    · cases hparts
    · rename_i hnot
      have hdirectory : slash = true → u.isDirectory place = true := by
        intro hslash
        simp only [hslash, Bool.true_and, Bool.not_eq_true', Bool.not_eq_false] at hnot
        exact h.isDirectory hnot
      rw [if_neg (by simpa using hdirectory)]
      exact hparts
  | part :: rest, place, hparts => by
    unfold FileTree.resolveThrough at hparts ⊢
    split at hparts
    · cases hparts
    · rename_i hmay
      obtain ⟨next, halong, hnext⟩ := bind_eq_ok.1 hparts
      rw [if_neg (by simp)]
      refine bind_eq_ok.2 ⟨next, h.along halong, ?_⟩
      cases hentry : t.entry? next with
      | none =>
        simp only [hentry] at hnext
        split at hnext
        · rename_i hmaking
          simp only [Bool.and_eq_true, List.isEmpty_iff] at hmaking
          obtain ⟨hmaking, rfl⟩ := hmaking
          cases hnext
          obtain ⟨number, hfile⟩ := hlast hmaking hentry
          -- a slash at the end would have been refused
          have hslash : slash = false := by
            simpa [hmaking, isDirectory_of_along halong] using hmay
          simp [hfile, hslash, FileTree.resolveThrough]
        · cases hnext
      | some e =>
        simp only [hentry] at hnext
        simp only [h.entries next e hentry]
        cases e with
        | link target => exact hfollow _ _ _ hnext
        | directory => exact h.resolveThrough hlast hfollow hnext
        | file number => exact h.resolveThrough hlast hfollow hnext
        | device d => exact h.resolveThrough hlast hfollow hnext

/-- The same on the way along any number of links. -/
theorem Extends.resolve (h : t.Extends changed u)
    (hlast : making = true → t.entry? last = none → ∃ number, u.entry? last = some (.file number)) :
    ∀ {links : Nat} {slash : Bool} {place : Place} {parts : List PathPart},
      t.resolve making links slash place parts = .ok last → u.resolve false links slash place parts = .ok last
  | 0, _, _, _, hparts => by
    unfold FileTree.resolve at hparts ⊢
    exact h.resolveThrough hlast (fun _ _ _ hrefused => by cases hrefused) hparts
  | _ + 1, _, _, _, hparts => by
    unfold FileTree.resolve at hparts ⊢
    exact h.resolveThrough hlast (fun _ _ _ => h.resolve hlast) hparts

/-- A path leads to an entry at a place: the system takes the path, and the way along it ends
there. -/
def LeadsTo (t : FileTree) (p : Path) (place : Place) (e : Entry) : Prop :=
  checkText p.text = .ok () ∧ t.walk p = .ok place ∧ t.entry? place = some e

/-- A path leads to an entry. -/
def At (t : FileTree) (p : Path) (e : Entry) : Prop :=
  ∃ place, t.LeadsTo p place e

/-- The file at a path holds a text. -/
def Holds (t : FileTree) (p : Path) (text : String) : Prop :=
  ∃ number, t.At p (.file number) ∧ t.texts[number]? = some text

theorem At.unique {p : Path} {e e' : Entry} (h : t.At p e) (h' : t.At p e') : e = e' := by
  obtain ⟨place, -, hwalk, hentry⟩ := h
  obtain ⟨place', -, hwalk', hentry'⟩ := h'
  cases hwalk.symm.trans hwalk'
  exact Option.some.inj (hentry.symm.trans hentry')

/-- Paths lead to the same entries when the tree has grown. -/
theorem Extends.leadsTo (h : t.Extends changed u) {p : Path} {place : Place} {e : Entry} :
    t.LeadsTo p place e → u.LeadsTo p place e
  | ⟨htext, hwalk, hentry⟩ => by
    have hparts : t.resolve false maxLinks p.endsInSlash t.start (systemParts p) = .ok place := hwalk
    refine ⟨htext, ?_, h.entries place e hentry⟩
    rw [walk, h.start]
    exact h.resolve (fun hmaking => by cases hmaking) hparts

end Paths

/-! ### Directories are only added -/

theorem exists_of_makeDirectory {t made : FileTree} {p : Path} (h : t.makeDirectory p = .ok made) :
    ∃ place, t.entry? place = none ∧ made = t.addDirectory place := by
  rw [makeDirectory, bind_eq_ok] at h
  obtain ⟨-, -, h⟩ := h
  obtain ⟨above, -, h⟩ := bind_eq_ok.1 h
  split at h
  · obtain ⟨place, -, h⟩ := bind_eq_ok.1 h
    cases hplace : t.entry? place with
    | some e => simp [hplace] at h
    | none =>
      simp only [hplace] at h
      cases h
      exact ⟨place, hplace, rfl⟩
  · obtain ⟨-, -, h⟩ := bind_eq_ok.1 h
    cases h
  · cases h

variable {changed : Place → Nat → Prop} {trouble : Troubles}

theorem extends_ensureDirectory {t made : FileTree} {p : Path} (h : t.ensureDirectory trouble p = .ok made) :
    t.Extends changed made := by
  unfold ensureDirectory at h
  split at h
  · cases h
  · split at h
    · rename_i made' hmade
      obtain ⟨place, hfree, rfl⟩ := exists_of_makeDirectory hmade
      cases h
      exact .addDirectory hfree
    · split at h
      · cases h
        exact .refl _ t
      · cases h
    · cases h

theorem extends_missing {t : FileTree} : ∀ {ps : List Path} {found : List Path × FileTree},
    t.missing trouble ps = .ok found → t.Extends changed found.2
  | [], found, h => by
    cases h
    exact .refl _ t
  | p :: shorter, found, h => by
    unfold missing at h
    split at h
    · rename_i made hmade
      cases h
      exact extends_ensureDirectory hmade
    · cases hshorter : t.missing trouble shorter with
      | error refusal =>
        rw [hshorter] at h
        cases h
      | ok found' =>
        rw [hshorter] at h
        cases h
        have hfound : t.Extends changed found'.2 := extends_missing hshorter
        exact hfound
    · cases h

theorem extends_makeAll : ∀ (ps : List Path) (t : FileTree), t.Extends changed (makeAll trouble ps t).2
  | [], t => .refl _ t
  | p :: rest, t => by
    unfold makeAll
    split
    · rename_i made hmade
      exact (extends_ensureDirectory hmade).trans (extends_makeAll rest made)
    · exact .refl _ t

/-- To make directories changes no file, whether it goes well or not. -/
theorem extends_makeDirectories (trouble : Troubles) (t : FileTree) (ps : List Path) :
    t.Extends changed (t.makeDirectories trouble ps).2 := by
  unfold makeDirectories
  split
  · exact .refl _ t
  · rename_i found hfound
    exact (extends_missing hfound).trans (extends_makeAll _ _)

/-! ### What is opened -/

/-- The entry of what was opened. -/
def Target.entry : Target → Entry
  | .file number => .file number
  | .device d => .device d

/-- What a path is opened to is what it leads to then, and no other file has changed. -/
theorem leadsTo_of_openForWriting {t opened : FileTree} {p : Path} {target : Target}
    (h : t.openForWriting p = .ok (target, opened)) :
    ∃ place, opened.LeadsTo p place target.entry ∧
      t.Extends (fun other number => other = place ∧ target = .file number) opened := by
  rw [openForWriting, bind_eq_ok] at h
  obtain ⟨⟨⟩, htext, h⟩ := h
  obtain ⟨place, hplace, h⟩ := bind_eq_ok.1 h
  refine ⟨place, ?_⟩
  -- what is there leads to itself
  have hthere : ∀ e, t.entry? place = some e → t.LeadsTo p place e := by
    intro e hentry
    have hwalk := (Extends.refl (fun _ _ => False) t).resolve (fun _ hnone => by simp [hentry] at hnone) hplace
    exact ⟨htext, hwalk, hentry⟩
  cases hentry : t.entry? place with
  | none =>
    simp only [hentry] at h
    cases h
    have hgrown := Extends.addFile hentry
    have hfile : entry? (t.addFile place) place = some (.file t.texts.length) := by
      rw [entry?_addFile hentry, if_pos rfl]
    refine ⟨⟨htext, ?_, hfile⟩, hgrown.mono fun other number ⟨hother, hnumber⟩ => ⟨hother, by rw [hnumber]⟩⟩
    exact hgrown.resolve (fun _ _ => ⟨_, hfile⟩) hplace
  | some e =>
    cases e with
    | file number =>
      simp only [hentry] at h
      cases h
      have hgrown := Extends.setText t place number ""
      exact ⟨hgrown.leadsTo (hthere _ hentry), hgrown.mono fun other n ⟨hother, hn⟩ => ⟨hother, by rw [hn]⟩⟩
    | device d =>
      simp only [hentry] at h
      cases h
      exact ⟨hthere _ hentry, .refl _ _⟩
    | directory =>
      simp only [hentry] at h
      cases h
    | link target =>
      simp only [hentry] at h
      cases h

/-- A step of writing to a path is refused: to make the directories above it, to open what it
leads to, to write there or to flush what was written. -/
inductive Hindered (trouble : Troubles) (t : FileTree) (p : Path) : Prop
  | directories {refusal : Refusal} (refused : (t.makeDirectories trouble p.ancestors).1 = .error refusal)
  | opening {refusal : Refusal} (refused : trouble.opening = some refusal)
  | target {refusal : Refusal}
      (refused : (t.makeDirectories trouble p.ancestors).2.openForWriting p = .error refusal)
  | writing (refused : trouble.writing.isSome)
  | flushing (refused : trouble.flushing.isSome)

/-- No step is refused when all of them go well. -/
theorem not_hindered {t opened : FileTree} {p : Path} {target : Target}
    (hdirectories : (t.makeDirectories trouble p.ancestors).1 = .ok ()) (hopening : trouble.opening = none)
    (hopened : (t.makeDirectories trouble p.ancestors).2.openForWriting p = .ok (target, opened))
    (hwriting : trouble.writing = none) (hflushing : trouble.flushing = none) : ¬ t.Hindered trouble p := by
  intro hhindered
  cases hhindered with
  | directories refused => simp [hdirectories] at refused
  | opening refused => simp [hopening] at refused
  | target refused => simp [hopened] at refused
  | writing refused => simp [hwriting] at refused
  | flushing refused => simp [hflushing] at refused

end FileTree

namespace Disk

variable {trouble : Troubles} {p : Path} {text : String} {d e : Disk}

/-! ### Writing to a path -/

/-- A text has been brought to what a path leads to: to a file, which holds it, or to a device,
which has been given it. -/
inductive Brought (p : Path) (text : String) (d e : Disk) : Prop
  | file (holds : e.files.Holds p text) (given : e.given = d.given)
  | device {device : Device} (leads : e.files.At p (.device device)) (given : e.given = (d.give device text).given)

/-- What is brought to what a path was opened to is brought to the path. -/
theorem brought_bring {place : Place} {target : FileTree.Target} (h : d.files.LeadsTo p place target.entry)
    (text : String) :
    d.Brought p text (d.bring text target) ∧
      d.files.Extends (fun other number => other = place ∧ target = .file number) (d.bring text target).files := by
  cases target with
  | file number =>
    have hgrown := FileTree.Extends.setText d.files place number text
    have hlt : number < d.files.texts.length := FileTree.number_lt_of_name h.2.2
    refine ⟨.file ⟨number, ⟨place, hgrown.leadsTo h⟩, ?_⟩ rfl,
      hgrown.mono fun other n ⟨hother, hn⟩ => ⟨hother, by rw [hn]⟩⟩
    simp [bring, FileTree.setText, hlt]
  | device device => exact ⟨.device ⟨place, h⟩ rfl, .refl _ _⟩

/-- What it comes to when a text is written to a path: no step is refused and the text has been
brought there, or a step is refused and nothing has been brought there, or the first characters
of the text. -/
inductive Written (trouble : Troubles) (p : Path) (text : String) (d e : Disk) : Except Refusal Unit → Prop
  | done (free : ¬ d.files.Hindered trouble p) (brought : d.Brought p text e) : Written trouble p text d e (.ok ())
  | refused {refusal : Refusal} (hindered : d.files.Hindered trouble p) (given : e.given = d.given) :
      Written trouble p text d e (.error refusal)
  | cutOff {refusal : Refusal} {n : Nat} (hindered : d.files.Hindered trouble p)
      (brought : d.Brought p (firstCharacters n text) e) : Written trouble p text d e (.error refusal)

/-- What is written to what was opened is the whole text, or its first characters after a
refusal. -/
theorem fill_cases (trouble : Troubles) (d : Disk) (target : FileTree.Target) (text : String) :
    (trouble.writing = none ∧ trouble.flushing = none ∧ fill trouble d target text = (.ok (), d.bring text target)) ∨
      ((trouble.writing.isSome ∨ trouble.flushing.isSome) ∧ ∃ refusal n,
        fill trouble d target text = (.error refusal, d.bring (firstCharacters n text) target)) := by
  unfold fill
  split
  · rename_i hwriting
    exact .inr ⟨.inl (by rw [hwriting]; rfl), _, _, rfl⟩
  · rename_i hflushing
    exact .inr ⟨.inr (by rw [hflushing]; rfl), _, _, rfl⟩
  · rename_i hwriting hflushing
    exact .inl ⟨hwriting, hflushing, rfl⟩

/-- What is brought to what was opened has been brought to the path, for the disk from before the
directories were made and the path was opened. -/
theorem brought_of_opened {made opened : FileTree} {target : FileTree.Target}
    (hmade : ∀ {changed}, d.files.Extends changed made) (hopened : made.openForWriting p = .ok (target, opened))
    (text : String) :
    let e := bring { d with files := opened } text target
    d.Brought p text e ∧ d.files.Extends (fun place number => e.files.LeadsTo p place (.file number)) e.files := by
  obtain ⟨place, hleads, hopen⟩ := FileTree.leadsTo_of_openForWriting hopened
  obtain ⟨hbrought, hbring⟩ := brought_bring (d := { d with files := opened }) hleads text
  refine ⟨?_, ((hmade.trans hopen).trans hbring).mono fun other number ⟨hother, htarget⟩ => ?_⟩
  · cases hbrought with
    | file holds given => exact .file holds given
    | device leads given => exact .device leads given
  · have hentry : target.entry = .file number := by rw [htarget]; rfl
    rw [hother, ← hentry]
    exact hbring.leadsTo hleads

/-- A text that is written to a path has been brought there, or the writing says that a step was
refused. In any case no file has changed but the one at the path, and only directories are
new beside it. -/
theorem written_writeText (trouble : Troubles) (d : Disk) (p : Path) (text : String) :
    let written := d.writeText trouble p text
    d.Written trouble p text written.2 written.1 ∧
      d.files.Extends (fun place number => written.2.files.LeadsTo p place (.file number)) written.2.files := by
  have hmade : ∀ {changed}, d.files.Extends changed (d.files.makeDirectories trouble p.ancestors).2 :=
    FileTree.extends_makeDirectories trouble d.files p.ancestors
  cases hdirectories : (d.files.makeDirectories trouble p.ancestors).1 with
  | error refusal =>
    simp only [writeText, hdirectories]
    exact ⟨.refused (.directories hdirectories) rfl, hmade⟩
  | ok _ =>
    cases hopening : trouble.opening with
    | some refusal =>
      simp only [writeText, hdirectories, hopening]
      exact ⟨.refused (.opening hopening) rfl, hmade⟩
    | none =>
      cases hopened : (d.files.makeDirectories trouble p.ancestors).2.openForWriting p with
      | error refusal =>
        simp only [writeText, hdirectories, hopening, hopened]
        exact ⟨.refused (.target hopened) rfl, hmade⟩
      | ok result =>
        obtain ⟨target, opened⟩ := result
        simp only [writeText, hdirectories, hopening, hopened]
        rcases fill_cases trouble { d with files := opened } target text with
          ⟨hwriting, hflushing, hfill⟩ | ⟨hrefused, refusal, n, hfill⟩
        · obtain ⟨hbrought, hextends⟩ := brought_of_opened hmade hopened text
          have hfree : ¬ d.files.Hindered trouble p :=
            FileTree.not_hindered hdirectories hopening hopened hwriting hflushing
          rw [hfill]
          exact ⟨.done hfree hbrought, hextends⟩
        · obtain ⟨hbrought, hextends⟩ := brought_of_opened hmade hopened (firstCharacters n text)
          rw [hfill]
          exact ⟨.cutOff (hrefused.elim .writing .flushing) hbrought, hextends⟩

/-! ### Emissions -/

/-- Where an artifact is after its emission to a path. -/
inductive Outcome (trouble : Troubles) (p : Path) (artifact : String) (d e : Disk) : Prop
  /-- no step was refused, and the file at the path holds the artifact -/
  | kept (free : ¬ d.files.Hindered trouble p) (holds : e.files.Holds p artifact) (given : e.given = d.given)
  /-- no step was refused, and the device at the path has been given the artifact -/
  | passed {device : Device} (free : ¬ d.files.Hindered trouble p) (leads : e.files.At p (.device device))
      (given : e.given = (d.give device artifact).given)
  /-- a step was refused, and standard output has got the artifact as a line -/
  | printed (hindered : d.files.Hindered trouble p) (given : e.given = (d.printLine artifact).given)
  /-- the same, after the device at the path has been given the first characters -/
  | cutOff {device : Device} {n : Nat} (hindered : d.files.Hindered trouble p)
      (leads : e.files.At p (.device device))
      (given : e.given = ((d.give device (firstCharacters n artifact)).printLine artifact).given)

/-- An artifact has been delivered to a path: it is somewhere, no file has changed but the one at
the path, and only directories are new beside it. -/
structure Delivered (trouble : Troubles) (p : Path) (artifact : String) (d e : Disk) : Prop where
  outcome : d.Outcome trouble p artifact e
  extend : d.files.Extends (fun place number => e.files.LeadsTo p place (.file number)) e.files

theorem given_printLine (h : e.given = d.given) (line : String) : (e.printLine line).given = (d.printLine line).given := by
  simp only [printLine, give, h]

end Disk

namespace Sink

/-- Delivers artifacts one after the other, each with the troubles of its own emission. -/
def emitEach (sink : Sink) (d : Disk) (emissions : List (Troubles × String)) : Disk :=
  emissions.foldl (fun d emission => sink.emit emission.1 d emission.2) d

theorem emitAll_eq_emitEach (sink : Sink) (d : Disk) (artifacts : List String) :
    sink.emitAll d artifacts = sink.emitEach d (artifacts.map fun artifact => (Troubles.none, artifact)) := by
  rw [emitAll, emitEach, List.foldl_map]

/-- Each emission to a path delivers its artifact. -/
theorem delivered_emit (trouble : Troubles) (p : Path) (artifact : String) (d : Disk) :
    d.Delivered trouble p artifact ((Sink.file p).emit trouble d artifact) := by
  obtain ⟨hwritten, hextends⟩ := d.written_writeText trouble p artifact
  rcases hresult : d.writeText trouble p artifact with ⟨result, e⟩
  rw [hresult] at hwritten hextends
  cases result with
  | ok _ =>
    have hemit : (Sink.file p).emit trouble d artifact = e := by
      simp [emit, Disk.write, hresult, Except.mapError]
    rw [hemit]
    cases hwritten with
    | done free brought =>
      cases brought with
      | file holds given => exact ⟨.kept free holds given, hextends⟩
      | device leads given => exact ⟨.passed free leads given, hextends⟩
  | error refusal =>
    have hemit : (Sink.file p).emit trouble d artifact = e.printLine artifact := by
      simp [emit, Disk.write, hresult, Except.mapError]
    rw [hemit]
    cases hwritten with
    | refused hindered given => exact ⟨.printed hindered (Disk.given_printLine given artifact), hextends⟩
    | cutOff hindered brought =>
      cases brought with
      | file holds given => exact ⟨.printed hindered (Disk.given_printLine given artifact), hextends⟩
      | device leads given => exact ⟨.cutOff hindered leads (Disk.given_printLine given artifact), hextends⟩

/-- However many artifacts are emitted, only the file at the path has changed. -/
theorem extends_emitEach (p : Path) : ∀ (emissions : List (Troubles × String)) (d : Disk),
    let e := (Sink.file p).emitEach d emissions
    d.files.Extends (fun place number => e.files.LeadsTo p place (.file number)) e.files
  | [], d => .refl _ d.files
  | (trouble, artifact) :: rest, d => by
    have hfirst := (delivered_emit trouble p artifact d).extend
    have hrest := extends_emitEach p rest ((Sink.file p).emit trouble d artifact)
    exact (hfirst.mono fun _ _ hleads => hrest.leadsTo hleads).trans hrest

end Sink

/-- **Every artifact goes where its path leads, or to standard output.** Artifacts are emitted
to a path one after the other, while any of the steps of each emission may be refused. After
each of them the file at the path holds exactly the artifact, or the device at the path has been
given exactly the artifact, and no other device has been given anything; or a step was refused, and
standard output has got the artifact as a line. No file changes but the one at the path, and only
directories are added beside it, in each emission and in all of them together. -/
theorem Settings.artifacts_delivered (p : Path) (logFilter : String) (d : Disk)
    (emissions : List (Troubles × String)) :
    let sink := (Settings.mk (some p) logFilter).sink
    (∀ (trouble : Troubles) (artifact : String), (sink.emitEach d emissions).Delivered trouble p artifact
        (sink.emitEach d (emissions ++ [(trouble, artifact)]))) ∧
      d.files.Extends (fun place number => (sink.emitEach d emissions).files.LeadsTo p place (.file number))
        (sink.emitEach d emissions).files := by
  intro sink
  refine ⟨fun trouble artifact => ?_, Sink.extends_emitEach p emissions d⟩
  rw [Sink.emitEach, Sink.emitEach, List.foldl_append]
  exact Sink.delivered_emit trouble p artifact _

/-- A text goes along a link to a file, and stands under its other name too. -/
example :
    let t : FileTree :=
      { entries := [(["a"], .directory), (["a", "f"], .file 0), (["b"], .file 0), (["l"], .link ⟨"a/f"⟩)]
        texts := ["old"]
        start := [] }
    let e := (Sink.file ⟨"l"⟩).emit .none ⟨t, fun _ => ""⟩ "new"
    e.files.entries = t.entries ∧ e.files.texts = ["new"] := by
  decide +kernel

/-- The null device keeps nothing. No step is refused, and yet the artifact is in no file at the
path and not on standard output. -/
theorem Settings.null_keeps_nothing :
    let p : Path := ⟨"/dev/null"⟩
    let d : Disk := ⟨.scratch, fun _ => ""⟩
    let e := (Settings.mk (some p) "warn").sink.emit .none d "artifact"
    ¬ d.files.Hindered .none p ∧ ¬ e.files.Holds p "artifact" ∧ e.stdout = d.stdout := by
  intro p d e
  have hmade : FileTree.scratch.makeDirectories .none p.ancestors = (.ok (), .scratch) := by decide +kernel
  have hopened : FileTree.scratch.openForWriting p = .ok (.device .null, .scratch) := by decide +kernel
  have hwritten : d.writeText .none p "artifact" = (.ok (), d.give .null "artifact") := by
    simp only [Disk.writeText, d, hmade, hopened]
    rfl
  have hemit : e = d.give .null "artifact" := by
    simp only [e, sink, Option.elim_some, Sink.emit, Disk.write, hwritten]
    rfl
  have hat : FileTree.scratch.At p (.device .null) := by
    obtain ⟨place, hleads, -⟩ := FileTree.leadsTo_of_openForWriting hopened
    exact ⟨place, hleads⟩
  refine ⟨?_, ?_, ?_⟩
  · exact FileTree.not_hindered (by rw [hmade]) rfl (by rw [hmade]; exact hopened) rfl rfl
  · rw [hemit]
    rintro ⟨number, hfile, -⟩
    cases hfile.unique hat
  · rw [hemit]
    rfl

end CallChain
