/-
# The layout of artifacts, by rules

What an artifact has to look like, said by rules that do not mention how it is written: a
rule for each kind of scalar, one for each body of an object, one for a reference and one
for a failure. The rules leave nothing open, and the tree that a strict reader of JSON finds
in the text of an artifact is the one that they allow. A reader that took names out of
order, dropped a repeated key or changed the spelling of a number would find another one.

Key definitions: `Scalar.LaidOut`, `Rendered.LaidOut`, `Frame.LaidOut`.
Key theorems: `Scalar.laidOut_iff`, `Rendered.laidOut_iff`, `Frame.laidOut_iff`,
`exists_read_artifact`.
-/
import CallChain.Proofs.Lossless

namespace CallChain

open Numeral

/-! ### Scalars -/

/-- How a scalar stands in an artifact. A number is spelled as JSON spells numbers, and a
double that JSON cannot spell is named by a text. -/
inductive Scalar.LaidOut : Scalar → Json → Prop
  | null : LaidOut .null .null
  | bool (b : Bool) : LaidOut (.bool b) (.bool b)
  | char (c : Char) : LaidOut (.char c) (.string (String.singleton c))
  | int {n : Int64} (spelled : IsNumber (intNumeral n.toInt)) :
      LaidOut (.int n) (.number (intNumeral n.toInt))
  | uint {n : UInt64} (spelled : IsNumber (natNumeral n.toNat)) :
      LaidOut (.uint n) (.number (natNumeral n.toNat))
  | finite {x : Binary64} (finite : x.magnitude ≠ .nan ∧ x.magnitude ≠ .infinite)
      (spelled : IsNumber (artifactNumeral.write x)) : LaidOut (.float x) (.number (artifactNumeral.write x))
  | nan {x : Binary64} (nan : x.magnitude = .nan) : LaidOut (.float x) (.string "NaN")
  | infinite {x : Binary64} (infinite : x.magnitude = .infinite) (positive : x.isNegative = false) :
      LaidOut (.float x) (.string "inf")
  | minusInfinite {x : Binary64} (infinite : x.magnitude = .infinite) (negative : x.isNegative = true) :
      LaidOut (.float x) (.string "-inf")
  | str (s : String) : LaidOut (.str s) (.string s)

/-- The words of the largest exponent are those that stand for no real number. -/
theorem Binary64.isFinite_iff (x : Binary64) :
    x.isFinite = true ↔ x.magnitude ≠ .nan ∧ x.magnitude ≠ .infinite := by
  unfold isFinite magnitude
  by_cases hexponent : x.exponentField = 2047
  · by_cases hfraction : x.fraction = 0 <;> simp [hexponent, hfraction]
  · by_cases hzero : x.exponentField = 0
    · by_cases hfraction : x.fraction = 0 <;> simp [hzero, hfraction]
    · simp [hexponent, hzero]

/-- A double that is no real number is written as its name. -/
theorem Scalar.layout_float_of_not_finite {x : Binary64} (h : ¬ x.isFinite = true) :
    (Scalar.float x).layout = .string (String.ofList (artifactNumeral.write x)) :=
  if_neg h

theorem Scalar.laidOut_layout (s : Scalar) : s.LaidOut s.layout := by
  cases s with
  | null => exact .null
  | bool b => exact .bool b
  | char c => exact .char c
  | int n => exact .int (isNumber_intNumeral n.toInt)
  | uint n => exact .uint (isNumber_natNumeral n.toNat)
  | str s => exact .str s
  | float x =>
    by_cases hfinite : x.isFinite = true
    · rw [show (Scalar.float x).layout = .number (artifactNumeral.write x) from if_pos hfinite]
      exact .finite (x.isFinite_iff.1 hfinite) (isNumber_write hfinite)
    · rw [layout_float_of_not_finite hfinite]
      cases hmagnitude : x.magnitude with
      | nan =>
        have hwrite : artifactNumeral.write x = "NaN".toList := by simp [NumeralStyle.write, hmagnitude]
        rw [hwrite, String.ofList_toList]
        exact .nan hmagnitude
      | infinite =>
        cases hsign : x.isNegative with
        | false =>
          have hwrite : artifactNumeral.write x = "inf".toList := by
            simp [NumeralStyle.write, hmagnitude, hsign]
          rw [hwrite, String.ofList_toList]
          exact .infinite hmagnitude hsign
        | true =>
          have hwrite : artifactNumeral.write x = "-inf".toList := by
            simp [NumeralStyle.write, hmagnitude, hsign]
          rw [hwrite, String.ofList_toList]
          exact .minusInfinite hmagnitude hsign
      | zero => exact absurd (x.isFinite_iff.2 (by simp [hmagnitude])) hfinite
      | finite m q atPower => exact absurd (x.isFinite_iff.2 (by simp [hmagnitude])) hfinite

/-- No two rules are about one scalar. -/
theorem Scalar.LaidOut.unique {s : Scalar} {i j : Json} (hi : s.LaidOut i) (hj : s.LaidOut j) : i = j := by
  cases hi <;> cases hj <;> simp_all

theorem Scalar.laidOut_iff {s : Scalar} {j : Json} : s.LaidOut j ↔ j = s.layout :=
  ⟨fun h => h.unique s.laidOut_layout, fun h => h ▸ s.laidOut_layout⟩

/-! ### Values -/

namespace Rendered

/-- How a value stands in an artifact. Fields, items and entries keep their order, and names
and keys may repeat. -/
inductive LaidOut : Rendered Nat → Json → Prop
  | scalar {s : Scalar} {j : Json} (scalar : s.LaidOut j) : LaidOut (.scalar s) j
  | record {id : Nat} {typeName : String} {fields : List (String × Rendered Nat)}
      {pairs : List (String × Json)} (names : pairs.map (·.1) = fields.map (·.1))
      (values : List.Forall₂ LaidOut (fields.map (·.2)) (pairs.map (·.2))) :
      LaidOut (.object id typeName (.record fields))
        (.object (("@id", .number (natNumeral id)) :: ("@type", .string typeName) :: pairs))
  | sequence {id : Nat} {typeName : String} {items : List (Rendered Nat)} {js : List Json}
      (values : List.Forall₂ LaidOut items js) :
      LaidOut (.object id typeName (.sequence items))
        (.object [("@id", .number (natNumeral id)), ("@type", .string typeName), ("@items", .array js)])
  | mapping {id : Nat} {typeName : String} {entries : List (String × Rendered Nat)}
      {pairs : List (String × Json)} (keys : pairs.map (·.1) = entries.map (·.1))
      (values : List.Forall₂ LaidOut (entries.map (·.2)) (pairs.map (·.2))) :
      LaidOut (.object id typeName (.mapping entries))
        (.object [("@id", .number (natNumeral id)), ("@type", .string typeName), ("@entries", .object pairs)])
  | reference (id : Nat) : LaidOut (.reference id) (.object [("@ref", .number (natNumeral id))])
  | failed (kind message : String) : LaidOut (.failed ⟨kind, message⟩)
      (.object [("@error", .object [("kind", .string kind), ("message", .string message)])])

/-! The rules allow the tree that is written: an induction on the value, as in the writing. -/

mutual

theorem laidOut_layout : ∀ r : Rendered Nat, r.LaidOut r.layout
  | .scalar s => .scalar s.laidOut_layout
  | .object _ _ (.record fields) => .record (layoutFields_names fields) (laidOut_layoutFields fields _ rfl)
  | .object _ _ (.sequence items) => .sequence (laidOut_layoutItems items)
  | .object _ _ (.mapping entries) => .mapping (layoutFields_names entries) (laidOut_layoutFields entries _ rfl)
  | .reference id => .reference id
  | .failed ⟨kind, message⟩ => .failed kind message

theorem laidOut_layoutItems : ∀ items : List (Rendered Nat),
    List.Forall₂ LaidOut items (layoutItems items)
  | [] => .nil
  | item :: rest => .cons (laidOut_layout item) (laidOut_layoutItems rest)

theorem laidOut_layoutFields : ∀ (fields : List (String × Rendered Nat)) (pairs : List (String × Json)),
    pairs = layoutFields fields → List.Forall₂ LaidOut (fields.map (·.2)) (pairs.map (·.2))
  | [], _, rfl => .nil
  | (_, value) :: rest, _, rfl => .cons (laidOut_layout value) (laidOut_layoutFields rest _ rfl)

end

/-! They allow no other one: the value says which rule applies, and what is inside of it is
smaller. -/

mutual

theorem eq_layout_of_laidOut : ∀ (r : Rendered Nat) (j : Json), r.LaidOut j → j = r.layout
  | .scalar _, _, .scalar hscalar => Scalar.laidOut_iff.1 hscalar
  | .object _ _ (.record fields), _, .record hnames hvalues => by
    rw [eq_layoutFields_of_laidOut fields _ hnames hvalues]
    rfl
  | .object _ _ (.sequence items), _, .sequence hvalues => by
    rw [eq_layoutItems_of_laidOut items _ hvalues]
    rfl
  | .object _ _ (.mapping entries), _, .mapping hkeys hvalues => by
    rw [eq_layoutFields_of_laidOut entries _ hkeys hvalues]
    rfl
  | .reference _, _, .reference _ => rfl
  | .failed _, _, .failed _ _ => rfl

theorem eq_layoutItems_of_laidOut : ∀ (items : List (Rendered Nat)) (js : List Json),
    List.Forall₂ LaidOut items js → js = layoutItems items
  | [], _, .nil => rfl
  | item :: rest, j :: js, .cons hitem hrest => by
    rw [eq_layout_of_laidOut item j hitem, eq_layoutItems_of_laidOut rest js hrest]
    rfl

theorem eq_layoutFields_of_laidOut : ∀ (fields : List (String × Rendered Nat)) (pairs : List (String × Json)),
    pairs.map (·.1) = fields.map (·.1) → List.Forall₂ LaidOut (fields.map (·.2)) (pairs.map (·.2)) →
      pairs = layoutFields fields
  | [], [], _, _ => rfl
  | (name, value) :: rest, (key, j) :: pairs, hnames, hvalues => by
    obtain ⟨hname, hrest⟩ := List.cons.inj hnames
    cases hvalues with
    | cons hvalue hvalues =>
      rw [eq_layout_of_laidOut value j hvalue, eq_layoutFields_of_laidOut rest pairs hrest hvalues,
        show key = name from hname]
      rfl

end

theorem laidOut_iff {r : Rendered Nat} {j : Json} : r.LaidOut j ↔ j = r.layout :=
  ⟨eq_layout_of_laidOut r j, fun h => h ▸ laidOut_layout r⟩

theorem laidOutItems_iff {rs : List (Rendered Nat)} {js : List Json} :
    List.Forall₂ LaidOut rs js ↔ js = layoutItems rs :=
  ⟨eq_layoutItems_of_laidOut rs js, fun h => h ▸ laidOut_layoutItems rs⟩

end Rendered

/-! ### Chains -/

/-- How a frame stands in an artifact: the method, and then the values in an array. -/
inductive Frame.LaidOut (f : Frame) : Json → Prop
  | mk {js : List Json} (values : List.Forall₂ Rendered.LaidOut f.values js) :
      LaidOut f (.object [("method", .string f.method.text), ("values", .array js)])

theorem Frame.laidOut_iff {f : Frame} {j : Json} : f.LaidOut j ↔ j = f.layout := by
  constructor
  · rintro ⟨hvalues⟩
    rw [Rendered.laidOutItems_iff.1 hvalues]
    rfl
  · rintro rfl
    exact .mk (Rendered.laidOut_layoutItems f.values)

/-- How a chain stands in an artifact: an array with one object for each frame, in order. -/
inductive ChainLaidOut (fs : List Frame) : Json → Prop
  | mk {js : List Json} (frames : List.Forall₂ Frame.LaidOut fs js) : ChainLaidOut fs (.array js)

theorem framesLaidOut_iff : ∀ {fs : List Frame} {js : List Json},
    List.Forall₂ Frame.LaidOut fs js ↔ js = fs.map Frame.layout
  | [], js => by simp
  | f :: fs, js => by
    rw [List.forall₂_cons_left_iff, List.map_cons]
    constructor
    · rintro ⟨j, rest, hj, hrest, rfl⟩
      rw [Frame.laidOut_iff.1 hj, framesLaidOut_iff.1 hrest]
    · rintro rfl
      exact ⟨_, _, Frame.laidOut_iff.2 rfl, framesLaidOut_iff.2 rfl, rfl⟩

theorem chainLaidOut_iff {fs : List Frame} {j : Json} :
    ChainLaidOut fs j ↔ j = .array (fs.map Frame.layout) := by
  constructor
  · rintro ⟨hframes⟩
    rw [framesLaidOut_iff.1 hframes]
  · rintro rfl
    exact .mk (framesLaidOut_iff.2 rfl)

/-- **Every chain has an artifact that is JSON with the layout of the chain.** The strict
reader takes the whole text, whatever characters and numbers there are in the frames, and
finds the one tree that the rules of the layout allow. -/
theorem exists_read_artifact (fs : List Frame) :
    ∃ tree, Json.read (chainArtifact fs) = some tree ∧ ∀ j, ChainLaidOut fs j ↔ j = tree :=
  ⟨.array (fs.map Frame.layout), read_chainArtifact fs, fun _ => chainLaidOut_iff⟩

end CallChain
