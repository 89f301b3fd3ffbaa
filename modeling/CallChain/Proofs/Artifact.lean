/-
# Artifacts are JSON texts

Every number in an artifact is spelled as JSON spells numbers, so the reader of JSON reads
a match artifact back as the array of its frames.

Key theorems: `Scalar.layout_cases`, `Rendered.layout_spelled`, `Frame.layout_spelled`,
`read_chainArtifact`.
-/
import CallChain.Frame
import CallChain.Proofs.Reading

namespace CallChain

open Json Numeral

/-- A scalar is laid out as a JSON scalar. -/
theorem Scalar.layout_cases (s : Scalar) : s.layout = .null ∨ (∃ b, s.layout = .bool b) ∨
    (∃ t, IsNumber t ∧ s.layout = .number t) ∨ ∃ x, s.layout = .string x := by
  cases s with
  | null => exact .inl rfl
  | bool b => exact .inr (.inl ⟨b, rfl⟩)
  | char c => exact .inr (.inr (.inr ⟨_, rfl⟩))
  | int n => exact .inr (.inr (.inl ⟨_, isNumber_intNumeral n.toInt, rfl⟩))
  | uint n => exact .inr (.inr (.inl ⟨_, isNumber_natNumeral n.toNat, rfl⟩))
  | float x =>
    simp only [Scalar.layout]
    split
    · rename_i hfinite
      exact .inr (.inr (.inl ⟨_, isNumber_write hfinite, rfl⟩))
    · exact .inr (.inr (.inr ⟨_, rfl⟩))
  | str s => exact .inr (.inr (.inr ⟨_, rfl⟩))

theorem Scalar.layout_spelled (s : Scalar) : Spelled s.layout := by
  rcases s.layout_cases with h | ⟨b, h⟩ | ⟨t, hnumber, h⟩ | ⟨x, h⟩
  · simp [h, Spelled, tokens]
  · simp [h, Spelled, tokens]
  · simpa [h, Spelled, tokens] using hnumber
  · simp [h, Spelled, tokens]

theorem tokens_identityLayout {id : Nat} {t : List Char} (ht : t ∈ (identityLayout id).tokens) :
    IsNumber t := by
  rw [List.mem_singleton.1 ht]
  exact isNumber_natNumeral id

theorem Failure.layout_spelled (f : Failure) : Spelled f.layout :=
  fun t ht => by cases ht

namespace Rendered

mutual

/-- Every number in the tree of a value is spelled as JSON spells numbers. -/
theorem layout_spelled : ∀ r : Rendered Nat, Spelled r.layout
  | .scalar s => s.layout_spelled
  | .object id typeName (.record fields) => by
    intro t ht
    rcases List.mem_append.1 ht with ht | ht
    · exact tokens_identityLayout ht
    · exact layoutFields_spelled fields t ht
  | .object id typeName (.sequence items) => by
    intro t ht
    rcases List.mem_append.1 ht with ht | ht
    · exact tokens_identityLayout ht
    · exact layoutItems_spelled items t (by simpa [tokensOfPairs, tokens] using ht)
  | .object id typeName (.mapping entries) => by
    intro t ht
    rcases List.mem_append.1 ht with ht | ht
    · exact tokens_identityLayout ht
    · exact layoutFields_spelled entries t (by simpa [tokensOfPairs, tokens] using ht)
  | .reference id => fun t ht => tokens_identityLayout (by simpa [layout, tokensOfPairs, tokens] using ht)
  | .failed f => f.layout_spelled

theorem layoutItems_spelled : ∀ (items : List (Rendered Nat)),
    ∀ t ∈ tokensOfItems (layoutItems items), IsNumber t
  | [], _, ht => by cases ht
  | item :: rest, t, ht => by
    rcases List.mem_append.1 ht with ht | ht
    · exact layout_spelled item t ht
    · exact layoutItems_spelled rest t ht

theorem layoutFields_spelled : ∀ (fields : List (String × Rendered Nat)),
    ∀ t ∈ tokensOfPairs (layoutFields fields), IsNumber t
  | [], _, ht => by cases ht
  | (_, value) :: rest, t, ht => by
    rcases List.mem_append.1 ht with ht | ht
    · exact layout_spelled value t ht
    · exact layoutFields_spelled rest t ht

end

end Rendered

theorem Frame.layout_spelled (f : Frame) : Spelled f.layout := fun t ht =>
  Rendered.layoutItems_spelled f.values t (by simpa [Frame.layout, tokens, tokensOfPairs] using ht)

theorem chain_spelled : ∀ fs : List Frame, Spelled (.array (fs.map Frame.layout))
  | [], _, ht => by cases ht
  | f :: rest, t, ht => by
    rcases List.mem_append.1 ht with ht | ht
    · exact f.layout_spelled t ht
    · exact chain_spelled rest t ht

/-- A match artifact is read back as the array of its frames. -/
theorem read_chainArtifact (fs : List Frame) :
    Json.read (chainArtifact fs) = some (.array (fs.map Frame.layout)) :=
  read_text (chain_spelled fs)

end CallChain
