/-
# Brackets in a text

A reader of JSON that recurses into arrays and objects is as deep as the brackets that are
open where it reads. To count them it has to know where string literals begin and end,
because a bracket inside of one opens nothing.

A text `Rises` by a height if a reader outside of literals comes back to where it was, and
opens no more than so many brackets on the way. The text of a tree rises by the height of
the tree.

Key definitions: `Brackets.Scan`, `Brackets.scan`, `Brackets.peak`, `Brackets.Rises`,
`Json.height`.
Key theorems: `Brackets.depth_le_peak`, `Brackets.Rises.append`, `Brackets.rises_literal`,
`Json.rises_write`.
-/
import CallChain.Proofs.Reading

namespace CallChain
namespace Brackets

/-- Where a reader is: between tokens, in a string literal, or after a backslash there. -/
inductive Place where
  | outside
  | inside
  | escaped
deriving DecidableEq

/-- How far a reader has come: where it is, and how many brackets are open. -/
structure Scan where
  place : Place
  depth : Nat
deriving DecidableEq

namespace Scan

def start : Scan := ⟨.outside, 0⟩

/-- One character is read. -/
def step (s : Scan) (c : Char) : Scan :=
  match s.place with
  | .escaped => ⟨.inside, s.depth⟩
  | .inside =>
    if c = '"' then ⟨.outside, s.depth⟩
    else if c = '\\' then ⟨.escaped, s.depth⟩
    else s
  | .outside =>
    if c = '"' then ⟨.inside, s.depth⟩
    else if c = '[' ∨ c = '\x7b' then ⟨.outside, s.depth + 1⟩
    else if c = ']' ∨ c = '\x7d' then ⟨.outside, s.depth - 1⟩
    else s

end Scan

/-- A text is read. -/
def scan : Scan → List Char → Scan
  | s, [] => s
  | s, c :: rest => scan (s.step c) rest

/-- The most brackets that are open at once while a text is read. -/
def peak : Scan → List Char → Nat
  | s, [] => s.depth
  | s, c :: rest => max s.depth (peak (s.step c) rest)

theorem scan_append : ∀ (s : Scan) (as bs : List Char), scan s (as ++ bs) = scan (scan s as) bs
  | _, [], _ => rfl
  | s, c :: as, bs => scan_append (s.step c) as bs

theorem depth_le_peak_self (s : Scan) : ∀ cs : List Char, s.depth ≤ peak s cs
  | [] => Nat.le_refl _
  | _ :: _ => Nat.le_max_left _ _

theorem peak_append : ∀ (s : Scan) (as bs : List Char),
    peak s (as ++ bs) = max (peak s as) (peak (scan s as) bs)
  | s, [], bs => (Nat.max_eq_right (depth_le_peak_self s bs)).symm
  | s, c :: as, bs => by
    have hrest := peak_append (s.step c) as bs
    simp only [List.cons_append, peak, scan, hrest, Nat.max_assoc]

/-- After any part of a text no more brackets are open than at the peak. -/
theorem depth_le_peak (s : Scan) {read text : List Char} (h : read <+: text) :
    (scan s read).depth ≤ peak s text := by
  obtain ⟨rest, rfl⟩ := h
  rw [peak_append]
  exact Nat.le_trans (depth_le_peak_self _ rest) (Nat.le_max_right _ _)

/-! ### Texts that rise by a height -/

/-- A reader that is outside of literals comes back to where it was, and on the way has no
more than `h` brackets open on top of those that were. -/
def Rises (h : Nat) (text : List Char) : Prop :=
  ∀ depth, scan ⟨.outside, depth⟩ text = ⟨.outside, depth⟩ ∧ peak ⟨.outside, depth⟩ text ≤ depth + h

variable {h k : Nat} {as bs : List Char}

theorem rises_nil : Rises h [] :=
  fun _ => ⟨rfl, Nat.le_add_right _ _⟩

theorem Rises.mono (hk : h ≤ k) (ha : Rises h as) : Rises k as :=
  fun depth => ⟨(ha depth).1, Nat.le_trans (ha depth).2 (Nat.add_le_add_left hk depth)⟩

theorem Rises.append (ha : Rises h as) (hb : Rises h bs) : Rises h (as ++ bs) := by
  intro depth
  rw [scan_append, peak_append, (ha depth).1]
  exact ⟨(hb depth).1, Nat.max_le.2 ⟨(ha depth).2, (hb depth).2⟩⟩

/-- A character that neither opens nor closes anything. -/
def Plain (c : Char) : Prop :=
  c ≠ '"' ∧ c ≠ '[' ∧ c ≠ '\x7b' ∧ c ≠ ']' ∧ c ≠ '\x7d'

theorem step_plain {c : Char} (hc : Plain c) (depth : Nat) :
    Scan.step ⟨.outside, depth⟩ c = ⟨.outside, depth⟩ := by
  obtain ⟨hquote, hsquare, hcurly, hsquare', hcurly'⟩ := hc
  simp [Scan.step, hquote, hsquare, hcurly, hsquare', hcurly']

theorem Rises.cons {c : Char} (hc : Plain c) (ha : Rises h as) : Rises h (c :: as) := by
  intro depth
  simp only [scan, peak, step_plain hc]
  exact ⟨(ha depth).1, Nat.max_le.2 ⟨Nat.le_add_right _ _, (ha depth).2⟩⟩

theorem rises_plain : ∀ {cs : List Char}, (∀ c ∈ cs, Plain c) → Rises 0 cs
  | [], _ => rises_nil
  | _ :: _, hcs => (rises_plain fun c hc => hcs c (List.mem_cons_of_mem _ hc)).cons (hcs _ List.mem_cons_self)

/-- What stands between brackets rises by one more with them. -/
theorem Rises.bracketed {l r : Char} (hl : l = '[' ∨ l = '\x7b') (hr : r = ']' ∨ r = '\x7d')
    (ha : Rises h as) : Rises (h + 1) (l :: as ++ [r]) := by
  intro depth
  have hopen : Scan.step ⟨.outside, depth⟩ l = ⟨.outside, depth + 1⟩ := by
    rcases hl with rfl | rfl <;> rfl
  have hclose : Scan.step ⟨.outside, depth + 1⟩ r = ⟨.outside, depth⟩ := by
    rcases hr with rfl | rfl <;> rfl
  obtain ⟨hback, hpeak⟩ := ha (depth + 1)
  simp only [List.cons_append, scan, peak, hopen, scan_append, peak_append, hback, hclose]
  exact ⟨trivial, by omega⟩

/-! ### Literals -/

theorem step_inside {c : Char} (hquote : c ≠ '"') (hbackslash : c ≠ '\\') (depth : Nat) :
    Scan.step ⟨.inside, depth⟩ c = ⟨.inside, depth⟩ := by
  simp [Scan.step, hquote, hbackslash]

theorem hexDigit_inside : ∀ n < 16, Quoted.hexDigit n ≠ '"' ∧ Quoted.hexDigit n ≠ '\\' := by
  decide

/-- An escaped character leaves the reader inside of its literal. -/
theorem scan_escape (c : Char) (depth : Nat) :
    scan ⟨.inside, depth⟩ (Quoted.escape c) = ⟨.inside, depth⟩ ∧
      peak ⟨.inside, depth⟩ (Quoted.escape c) = depth := by
  have hshort : ∀ d, scan ⟨.inside, depth⟩ ['\\', d] = ⟨.inside, depth⟩ ∧
      peak ⟨.inside, depth⟩ ['\\', d] = depth := by
    simp [scan, peak, Scan.step]
  unfold Quoted.escape
  split
  · exact hshort _
  rename_i hquote
  split
  · exact hshort _
  rename_i hbackslash
  split
  · exact hshort _
  split
  · exact hshort _
  split
  · exact hshort _
  split
  · exact hshort _
  split
  · exact hshort _
  split
  · rename_i hcontrol
    obtain ⟨hhigh, hhigh'⟩ := hexDigit_inside (c.toNat / 16) (by omega)
    obtain ⟨hlow, hlow'⟩ := hexDigit_inside (c.toNat % 16) (by omega)
    simp [scan, peak, Scan.step, hhigh, hhigh', hlow, hlow']
  · simp [scan, peak, step_inside hquote hbackslash]

theorem scan_body : ∀ (s : List Char) (depth : Nat),
    scan ⟨.inside, depth⟩ (Quoted.body s) = ⟨.inside, depth⟩ ∧
      peak ⟨.inside, depth⟩ (Quoted.body s) = depth
  | [], _ => ⟨rfl, rfl⟩
  | c :: s, depth => by
    obtain ⟨hescape, hpeak⟩ := scan_escape c depth
    obtain ⟨hbody, hpeak'⟩ := scan_body s depth
    simp only [Quoted.body, scan_append, peak_append, hescape, hbody, hpeak, hpeak', Nat.max_self, and_self]

/-- Whatever a literal holds, it opens nothing. -/
theorem rises_literal (s : String) : Rises 0 (Quoted.literal s) := by
  intro depth
  have hopen : Scan.step ⟨.outside, depth⟩ '"' = ⟨.inside, depth⟩ := rfl
  have hclose : Scan.step ⟨.inside, depth⟩ '"' = ⟨.outside, depth⟩ := rfl
  obtain ⟨hbody, hpeak⟩ := scan_body s.toList depth
  simp only [Quoted.literal, List.cons_append, scan, peak, hopen, scan_append, peak_append, hbody, hpeak, hclose,
    Nat.max_self, Nat.add_zero, Nat.le_refl, and_self]

end Brackets

namespace Json

open Brackets Numeral

mutual

/-- How many arrays and objects are nested in a tree. -/
def height : Json → Nat
  | .array items => heightOfItems items + 1
  | .object pairs => heightOfPairs pairs + 1
  | _ => 0

def heightOfItems : List Json → Nat
  | [] => 0
  | item :: rest => max item.height (heightOfItems rest)

def heightOfPairs : List (String × Json) → Nat
  | [] => 0
  | (_, value) :: rest => max value.height (heightOfPairs rest)

end

theorem plain_of_character {c : Char} (h : Character c) : Plain c := by
  refine ⟨?_, ?_, ?_, ?_, ?_⟩ <;> rintro rfl <;> revert h <;> simp [Character]

/-- A key and its value. -/
theorem rises_pair {h : Nat} (key : String) {value : List Char} (hvalue : Rises h value) :
    Rises h (Quoted.literal key ++ ':' :: value) :=
  ((rises_literal key).mono (Nat.zero_le h)).append (hvalue.cons (by simp [Plain]))

mutual

/-- The text of a tree rises by the height of the tree. -/
theorem rises_write : ∀ j : Json, Spelled j → Rises j.height j.write
  | .null, _ => rises_plain (by simp [write, Plain])
  | .bool true, _ => rises_plain (by simp [write, Plain])
  | .bool false, _ => rises_plain (by simp [write, Plain])
  | .number t, h => rises_plain fun c hc => plain_of_character ((h t List.mem_cons_self).characters c hc)
  | .string s, _ => rises_literal s
  | .array items, h => (rises_writeItems items h).bracketed (.inl rfl) (.inl rfl)
  | .object pairs, h => (rises_writePairs pairs h).bracketed (.inr rfl) (.inr rfl)

theorem rises_writeItems : ∀ items : List Json, Spelled (.array items) →
    Rises (heightOfItems items) (writeItems items)
  | [], _ => rises_nil
  | [item], h => (rises_write item h.head.1).mono (Nat.le_max_left _ _)
  | item :: next :: rest, h => by
    have hitem := (rises_write item h.head.1).mono (Nat.le_max_left _ (heightOfItems (next :: rest)))
    have hrest := (rises_writeItems (next :: rest) h.head.2).mono (Nat.le_max_right item.height _)
    exact hitem.append (hrest.cons (by simp [Plain]))

theorem rises_writePairs : ∀ pairs : List (String × Json), Spelled (.object pairs) →
    Rises (heightOfPairs pairs) (writePairs pairs)
  | [], _ => rises_nil
  | [(key, value)], h => (rises_pair key (rises_write value h.headPair.1)).mono (Nat.le_max_left _ _)
  | (key, value) :: next :: rest, h => by
    have hpair := (rises_pair key (rises_write value h.headPair.1)).mono
      (Nat.le_max_left _ (heightOfPairs (next :: rest)))
    have hrest := (rises_writePairs (next :: rest) h.headPair.2).mono (Nat.le_max_right value.height _)
    exact hpair.append (hrest.cons (by simp [Plain]))

end

end Json
end CallChain
