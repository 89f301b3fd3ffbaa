/-
# What is written is read back

The strict reader of JSON returns the tree whose text it is given, as long as the number
tokens of the tree are JSON numbers. So two such trees with one text are equal.

The induction is on the tree. A value is read off the front of a text whatever follows
it, except that what follows a number must not go on with it (`Apart`).

Key definitions: `Json.tokens`, `Json.Spelled`, `Json.Apart`.
Key theorems: `Json.readNumber_append`, `Json.readString_literal`, `Json.read_text`,
`Json.eq_of_text_eq`.
-/
import CallChain.Json.Reader
import CallChain.Proofs.Numerals

namespace CallChain.Json

open Numeral

/-! ### Number tokens -/

mutual

/-- The number tokens of a tree. -/
def tokens : Json → List (List Char)
  | .number token => [token]
  | .array items => tokensOfItems items
  | .object pairs => tokensOfPairs pairs
  | _ => []

def tokensOfItems : List Json → List (List Char)
  | [] => []
  | item :: rest => item.tokens ++ tokensOfItems rest

def tokensOfPairs : List (String × Json) → List (List Char)
  | [] => []
  | (_, value) :: rest => value.tokens ++ tokensOfPairs rest

end

/-- Every number token of a tree is a JSON number. -/
def Spelled (j : Json) : Prop :=
  ∀ t ∈ j.tokens, IsNumber t

theorem Spelled.head {item : Json} {rest : List Json} (h : Spelled (.array (item :: rest))) :
    Spelled item ∧ Spelled (.array rest) :=
  ⟨fun t ht => h t (List.mem_append_left _ ht), fun t ht => h t (List.mem_append_right _ ht)⟩

theorem Spelled.headPair {key : String} {value : Json} {rest : List (String × Json)}
    (h : Spelled (.object ((key, value) :: rest))) : Spelled value ∧ Spelled (.object rest) :=
  ⟨fun t ht => h t (List.mem_append_left _ ht), fun t ht => h t (List.mem_append_right _ ht)⟩

/-! ### Numbers are read back -/

/-- A text that does not begin with such a character. -/
def Lacks (P : Char → Prop) (text : List Char) : Prop :=
  ∀ c, text.head? = some c → ¬ P c

/-- A text that does not go on with a number token. -/
def Apart (text : List Char) : Prop :=
  Lacks Character text

theorem Lacks.mono {P Q : Char → Prop} {text : List Char} (hPQ : ∀ c, Q c → P c) (h : Lacks P text) :
    Lacks Q text :=
  fun c hc hq => h c hc (hPQ c hq)

theorem lacks_cons {P : Char → Prop} {c : Char} {text : List Char} (h : ¬ P c) : Lacks P (c :: text) := by
  intro d hd
  obtain rfl : c = d := Option.some.inj hd
  exact h

theorem readDigits_append {ds rest : List Char} (h : Digits ds)
    (hrest : Lacks (fun c => c.isDigit = true) rest) : readDigits (ds ++ rest) = some (ds, rest) := by
  have hstop : rest.takeWhile Char.isDigit = [] ∧ rest.dropWhile Char.isDigit = rest := by
    cases rest with
    | nil => exact ⟨rfl, rfl⟩
    | cons c rest =>
      have hc : c.isDigit = false := by simpa using hrest c rfl
      exact ⟨List.takeWhile_cons_of_neg (by simp [hc]), List.dropWhile_cons_of_neg (by simp [hc])⟩
  unfold readDigits
  rw [List.takeWhile_append_of_pos h.2, List.dropWhile_append_of_pos h.2, hstop.1, hstop.2, List.append_nil,
    if_neg h.1]

theorem readSign_append {sign rest : List Char} (h : Sign sign) (hrest : Lacks (· = '-') rest) :
    readSign (sign ++ rest) = some (sign, rest) := by
  cases h with
  | minus => rfl
  | none =>
    cases rest with
    | nil => rfl
    | cons c rest =>
      have hc : c ≠ '-' := hrest c rfl
      simp [readSign, hc]

theorem readWhole_append {whole rest : List Char} (h : Whole whole)
    (hrest : Lacks (fun c => c.isDigit = true) rest) : readWhole (whole ++ rest) = some (whole, rest) := by
  cases h with
  | zero => rfl
  | digits h head =>
    have hread := readDigits_append h hrest
    obtain ⟨c, ds, rfl⟩ := List.exists_cons_of_ne_nil h.1
    have hc : c ≠ '0' := fun hc => head (by rw [hc]; rfl)
    rw [List.cons_append] at hread ⊢
    simp [readWhole, hc, hread]

theorem readFraction_append {fraction rest : List Char} (h : Fraction fraction)
    (hrest : Lacks (fun c => c.isDigit = true ∨ c = '.') rest) :
    readFraction (fraction ++ rest) = some (fraction, rest) := by
  cases h with
  | none =>
    cases rest with
    | nil => rfl
    | cons c rest =>
      have hc : c ≠ '.' := fun hc => hrest c rfl (.inr hc)
      simp [readFraction, hc]
  | digits h =>
    have hread := readDigits_append h (hrest.mono fun c hc => .inl hc)
    simp [readFraction, hread]

theorem readExponent_append {sign ds rest : List Char} (hsign : sign = [] ∨ sign = ['+'] ∨ sign = ['-'])
    (h : Digits ds) (hrest : Lacks (fun c => c.isDigit = true) rest) :
    readExponent (sign ++ ds ++ rest) = some (sign ++ ds, rest) := by
  have hread := readDigits_append h hrest
  rcases hsign with rfl | rfl | rfl
  · obtain ⟨c, ds, rfl⟩ := List.exists_cons_of_ne_nil h.1
    have hdigit : c.isDigit = true := h.2 c List.mem_cons_self
    have hplus : c ≠ '+' := by rintro rfl; cases hdigit
    have hminus : c ≠ '-' := by rintro rfl; cases hdigit
    simp only [List.nil_append, List.cons_append] at hread ⊢
    simp [readExponent, hplus, hminus, hread]
  · simp [readExponent, hread]
  · simp [readExponent, hread]

theorem readPower_append {power rest : List Char} (h : Power power) (hrest : Apart rest) :
    readPower (power ++ rest) = some (power, rest) := by
  cases h with
  | none =>
    cases rest with
    | nil => rfl
    | cons c rest =>
      have hlower : c ≠ 'e' := fun hc => hrest c rfl (by simp [Character, hc])
      have hupper : c ≠ 'E' := fun hc => hrest c rfl (by simp [Character, hc])
      simp [readPower, hlower, hupper]
  | digits he hsign h =>
    have hread := readExponent_append hsign h (hrest.mono fun c hc => .inl hc)
    rcases he with rfl | rfl <;> simp only [List.cons_append, readPower, hread, Option.map_some]

theorem readBoth_append {first second : List Char → Option (List Char × List Char)} {a b rest : List Char}
    (ha : first (a ++ (b ++ rest)) = some (a, b ++ rest)) (hb : second (b ++ rest) = some (b, rest)) :
    readBoth first second (a ++ b ++ rest) = some (a ++ b, rest) := by
  rw [List.append_assoc]
  simp only [readBoth, ha, hb, Option.bind_some, Option.map_some]

/-- A number token is read back whatever follows that does not go on with it. -/
theorem readNumber_append {t rest : List Char} (h : IsNumber t) (hrest : Apart rest) :
    readNumber (t ++ rest) = some (t, rest) := by
  obtain ⟨hsign, hwhole, hfraction, hpower⟩ := h
  rename_i sign whole fraction power
  -- what follows each piece begins neither with a digit nor as an earlier piece
  have hafterFraction : Lacks (fun c => c.isDigit = true ∨ c = '.') (power ++ rest) := by
    cases hpower with
    | none => exact hrest.mono fun c hc => by rcases hc with hc | hc <;> simp [Character, hc]
    | digits he => rcases he with rfl | rfl <;> exact lacks_cons (by decide)
  have hafterWhole : Lacks (fun c => c.isDigit = true) (fraction ++ (power ++ rest)) := by
    cases hfraction with
    | none => exact hafterFraction.mono fun c hc => .inl hc
    | digits => exact lacks_cons (by decide)
  have hafterSign : Lacks (· = '-') (whole ++ (fraction ++ (power ++ rest))) := by
    obtain ⟨hne, hdigits⟩ := hwhole.digits_of
    obtain ⟨c, ds, rfl⟩ := List.exists_cons_of_ne_nil hne
    have hdigit : c.isDigit = true := hdigits c List.mem_cons_self
    exact lacks_cons (by rintro rfl; cases hdigit)
  unfold readNumber
  refine readBoth_append ?_ (readBoth_append ?_ (readBoth_append ?_ (readPower_append hpower hrest)))
  · rw [List.append_assoc, List.append_assoc]
    exact readSign_append hsign hafterSign
  · rw [List.append_assoc]
    exact readWhole_append hwhole hafterWhole
  · exact readFraction_append hfraction hafterFraction

/-! ### Strings are read back -/

theorem hexValue?_hexDigit : ∀ n < 16, hexValue? (Quoted.hexDigit n) = some n := by
  decide

/-- A control character is read back from its code unit. -/
theorem readCoded_control {c : Char} (h : c.toNat < 32) (rest : List Char) :
    readCoded ('0' :: '0' :: Quoted.hexDigit (c.toNat / 16) :: Quoted.hexDigit (c.toNat % 16) :: rest) =
      some (c, rest) := by
  have hzero : hexValue? '0' = some 0 := rfl
  have hhigh := hexValue?_hexDigit (c.toNat / 16) (by omega)
  have hlow := hexValue?_hexDigit (c.toNat % 16) (by omega)
  have hunit : c.toNat / 16 * 16 + c.toNat % 16 = c.toNat := Nat.div_add_mod' _ _
  have hbelow : ¬ 0xd800 ≤ c.toNat := by omega
  have hbelow' : ¬ 0xdc00 ≤ c.toNat := by omega
  simp [readCoded, readUnit, hzero, hhigh, hlow, hunit, hbelow, hbelow', Char.ofNat_toNat]

/-- A character is read back as it is written inside a literal. -/
theorem readCharacter_escape (c : Char) (rest : List Char) :
    readCharacter (Quoted.escape c ++ rest) = some (c, rest) := by
  unfold Quoted.escape
  split
  · rename_i h
    subst h
    rfl
  split
  · rename_i h
    subst h
    rfl
  split
  · rename_i h
    subst h
    rfl
  split
  · rename_i h
    subst h
    rfl
  split
  · rename_i h
    subst h
    rfl
  split
  · rename_i h
    subst h
    rfl
  split
  · rename_i h
    subst h
    rfl
  split
  · rename_i h
    exact readCoded_control h rest
  · rename_i _ hbackslash _ _ _ _ _ hcontrol
    simp [readCharacter, hbackslash, hcontrol]

/-- No character is written so that it looks like the end of its literal. -/
theorem escape_head (c : Char) : ∃ d ds, Quoted.escape c = d :: ds ∧ d ≠ '"' := by
  unfold Quoted.escape
  split
  · exact ⟨_, _, rfl, by decide⟩
  rename_i hquote
  split
  · exact ⟨_, _, rfl, by decide⟩
  split
  · exact ⟨_, _, rfl, by decide⟩
  split
  · exact ⟨_, _, rfl, by decide⟩
  split
  · exact ⟨_, _, rfl, by decide⟩
  split
  · exact ⟨_, _, rfl, by decide⟩
  split
  · exact ⟨_, _, rfl, by decide⟩
  split
  · exact ⟨_, _, rfl, by decide⟩
  · exact ⟨_, _, rfl, hquote⟩

theorem readBody_body : ∀ (s rest : List Char) (fuel : Nat), s.length < fuel →
    readBody fuel (Quoted.body s ++ '"' :: rest) = some (s, rest)
  | [], rest, fuel + 1, _ => rfl
  | c :: s, rest, fuel + 1, h => by
    have hread := readCharacter_escape c (Quoted.body s ++ '"' :: rest)
    have hmore := readBody_body s rest fuel (by simpa using h)
    obtain ⟨d, ds, hescape, hd⟩ := escape_head c
    rw [hescape, List.cons_append] at hread
    simp only [Quoted.body, List.append_assoc, hescape, List.cons_append, readBody, if_neg hd, hread,
      Option.bind_some, hmore, Option.map_some]

theorem length_le_body : ∀ s : List Char, s.length ≤ (Quoted.body s).length
  | [] => Nat.le_refl _
  | c :: s => by
    obtain ⟨d, ds, hescape, -⟩ := escape_head c
    have hrest := length_le_body s
    simp only [Quoted.body, hescape, List.length_append, List.length_cons]
    omega

/-- A string literal is read back. -/
theorem readString_literal (s : String) (rest : List Char) :
    readString (Quoted.literal s ++ rest) = some (s, rest) := by
  have hlength := length_le_body s.toList
  have hread := readBody_body s.toList rest (Quoted.body s.toList ++ '"' :: rest).length
    (by simp only [List.length_append, List.length_cons]; omega)
  simp only [Quoted.literal, List.cons_append, List.append_assoc, List.nil_append, readString, hread,
    Option.map_some, String.ofList_toList]

/-! ### Trees are read back -/

theorem skip_of_head {c : Char} {rest : List Char} (h : isSpace c = false) : skip (c :: rest) = c :: rest :=
  List.dropWhile_cons_of_neg (by simp [h])

/-- The text of a tree begins with a character that is no white space and closes nothing. -/
theorem write_head {j : Json} (h : Spelled j) :
    ∃ c rest, j.write = c :: rest ∧ isSpace c = false ∧ c ≠ ']' := by
  cases j with
  | null => exact ⟨_, _, rfl, rfl, by decide⟩
  | bool b => cases b <;> exact ⟨_, _, rfl, rfl, by decide⟩
  | number token =>
    obtain ⟨c, rest, rfl, hc⟩ := (h token List.mem_cons_self).head
    refine ⟨c, rest, rfl, ?_⟩
    rcases hc with rfl | hc
    · exact ⟨rfl, by decide⟩
    · refine ⟨?_, by rintro rfl; cases hc⟩
      cases hspace : isSpace c with
      | false => rfl
      | true =>
        simp only [isSpace, Bool.or_eq_true, decide_eq_true_eq] at hspace
        rcases hspace with ((rfl | rfl) | rfl) | rfl <;> cases hc
  | string s => exact ⟨_, _, rfl, rfl, by decide⟩
  | array items => exact ⟨_, _, rfl, rfl, by decide⟩
  | object pairs => exact ⟨_, _, rfl, rfl, by decide⟩

theorem writePairs_head (key : String) (value : Json) (more : List (String × Json)) :
    ∃ rest, writePairs ((key, value) :: more) = '"' :: rest := by
  cases more <;> exact ⟨_, rfl⟩

theorem writeItems_head {item : Json} (h : Spelled item) (more : List Json) :
    ∃ c rest, writeItems (item :: more) = c :: rest ∧ isSpace c = false ∧ c ≠ ']' := by
  obtain ⟨c, rest, hwrite, hc⟩ := write_head h
  cases more with
  | nil => exact ⟨c, rest, hwrite, hc⟩
  | cons next more => exact ⟨c, rest ++ ',' :: writeItems (next :: more), by simp [writeItems, hwrite], hc⟩

theorem apart_cons {c : Char} {rest : List Char} (h : c = ',' ∨ c = ']' ∨ c = '\x7d') : Apart (c :: rest) := by
  rcases h with rfl | rfl | rfl <;> exact lacks_cons (by simp [Character])

theorem skip_literal (s : String) (rest : List Char) :
    skip (Quoted.literal s ++ rest) = Quoted.literal s ++ rest :=
  skip_of_head rfl

/-- A number token is the value that it begins. -/
theorem readValue_number {t rest : List Char} {fuel : Nat} (h : IsNumber t) (hrest : Apart rest) :
    readValue (fuel + 1) (t ++ rest) = some (.number t, rest) := by
  have hread := readNumber_append h hrest
  obtain ⟨c, ds, hwrite, hspace, -⟩ := write_head (j := .number t) (by simpa [Spelled, tokens] using h)
  obtain ⟨d, ds', ht, hd⟩ := h.head
  obtain ⟨rfl, rfl⟩ : c = d ∧ ds = ds' := by simpa [write, ht] using hwrite.symm
  -- no other value begins with a minus or a digit
  have hother : ∀ e, (e = '\x7b' ∨ e = '[' ∨ e = '"' ∨ e = 'n' ∨ e = 't' ∨ e = 'f') → c ≠ e := by
    rintro e he rfl
    rcases he with rfl | rfl | rfl | rfl | rfl | rfl <;> rcases hd with hd | hd <;> cases hd
  rw [ht, List.cons_append] at hread ⊢
  simp [readValue, skip_of_head hspace, hother, hread]

mutual

/-- A tree is read back from its text, whatever follows it. -/
theorem readValue_write : ∀ (j : Json) (fuel : Nat) (rest : List Char), Spelled j → Apart rest →
    j.write.length ≤ fuel → readValue fuel (j.write ++ rest) = some (j, rest)
  | .null, fuel + 1, rest, _, _, _ => rfl
  | .bool true, fuel + 1, rest, _, _, _ => rfl
  | .bool false, fuel + 1, rest, _, _, _ => rfl
  | .number t, fuel, rest, h, hrest, hfuel => by
    have hnumber : IsNumber t := h t List.mem_cons_self
    obtain ⟨c, ds, rfl, -⟩ := hnumber.head
    cases fuel with
    | zero => cases hfuel
    | succ fuel => exact readValue_number hnumber hrest
  | .string s, fuel + 1, rest, _, _, _ => by
    have hread := readString_literal s rest
    simp only [Quoted.literal, List.cons_append, List.append_assoc, List.nil_append] at hread
    simp [write, Quoted.literal, readValue, skip_of_head, isSpace, hread]
  | .array [], fuel + 1, rest, _, _, _ => rfl
  | .array (item :: more), fuel + 1, rest, h, _, hfuel => by
    have hread := readItems_write item more fuel rest h (by simp [write] at hfuel; omega)
    obtain ⟨c, cs, hitems, hspace, hc⟩ := writeItems_head h.head.1 more
    have hskip : ∀ ds, skip (c :: ds) = c :: ds := fun ds => skip_of_head hspace
    rw [hitems, List.cons_append] at hread
    simp [write, hitems, readValue, skip_of_head, hskip, hc, isSpace, hread]
  | .object [], fuel + 1, rest, _, _, _ => rfl
  | .object ((key, value) :: more), fuel + 1, rest, h, _, hfuel => by
    have hread := readPairs_write key value more fuel rest h (by simp [write] at hfuel; omega)
    obtain ⟨cs, hpairs⟩ := writePairs_head key value more
    rw [hpairs, List.cons_append] at hread
    simp [write, hpairs, readValue, skip_of_head, isSpace, hread]

theorem readItems_write : ∀ (item : Json) (more : List Json) (fuel : Nat) (rest : List Char),
    Spelled (.array (item :: more)) → (writeItems (item :: more)).length < fuel →
    readItems fuel (writeItems (item :: more) ++ ']' :: rest) = some (item :: more, rest)
  | item, [], fuel + 1, rest, h, hfuel => by
    have hitem := readValue_write item fuel (']' :: rest) h.head.1 (apart_cons (by simp))
      (by simp [writeItems] at hfuel; omega)
    simp [writeItems, readItems, hitem, skip_of_head, isSpace]
  | item, next :: more, fuel + 1, rest, h, hfuel => by
    have hitem := readValue_write item fuel (',' :: (writeItems (next :: more) ++ ']' :: rest)) h.head.1
      (apart_cons (by simp)) (by simp [writeItems] at hfuel; omega)
    have hmore := readItems_write next more fuel rest h.head.2 (by simp [writeItems] at hfuel; omega)
    simp [writeItems, readItems, hitem, hmore, skip_of_head, isSpace]

theorem readPairs_write : ∀ (key : String) (value : Json) (more : List (String × Json)) (fuel : Nat)
    (rest : List Char), Spelled (.object ((key, value) :: more)) →
    (writePairs ((key, value) :: more)).length < fuel →
    readPairs fuel (writePairs ((key, value) :: more) ++ '\x7d' :: rest) = some ((key, value) :: more, rest)
  | key, value, [], fuel + 1, rest, h, hfuel => by
    have hkey := readString_literal key (':' :: (value.write ++ '\x7d' :: rest))
    have hvalue := readValue_write value fuel ('\x7d' :: rest) h.headPair.1 (apart_cons (by simp))
      (by simp [writePairs] at hfuel; omega)
    simp [writePairs, readPairs, hkey, hvalue, skip_of_head, skip_literal, isSpace]
  | key, value, (key', value') :: more, fuel + 1, rest, h, hfuel => by
    have hkey := readString_literal key
      (':' :: (value.write ++ ',' :: (writePairs ((key', value') :: more) ++ '\x7d' :: rest)))
    have hvalue := readValue_write value fuel (',' :: (writePairs ((key', value') :: more) ++ '\x7d' :: rest))
      h.headPair.1 (apart_cons (by simp)) (by simp [writePairs] at hfuel; omega)
    have hmore := readPairs_write key' value' more fuel rest h.headPair.2 (by simp [writePairs] at hfuel; omega)
    simp [writePairs, readPairs, hkey, hvalue, hmore, skip_of_head, skip_literal, isSpace]

end

/-- A tree is read back from its text. -/
theorem read_text {j : Json} (h : Spelled j) : read j.text = some j := by
  have hread := readValue_write j (j.write.length + 1) [] h (fun c hc => by cases hc) (Nat.le_succ _)
  rw [List.append_nil] at hread
  unfold read text
  rw [String.toList_ofList, hread]
  have hend : skip [] = [] := rfl
  rw [Option.bind_some, if_pos hend]

/-- Trees whose texts are equal are equal. -/
theorem eq_of_text_eq {j k : Json} (hj : Spelled j) (hk : Spelled k) (h : j.text = k.text) : j = k := by
  have hread := read_text hj
  rw [h, read_text hk] at hread
  exact (Option.some.inj hread).symm

end CallChain.Json
