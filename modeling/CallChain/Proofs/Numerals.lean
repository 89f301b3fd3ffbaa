/-
# Numerals are JSON numbers

The grammar of JSON numbers: a sign, digits without a leading zero, a fraction, a power.
Every number token of an artifact belongs to it. For a double that rests on two facts
about its shortest decimal: the coefficient has no leading zero because it is positive, and
the one coefficient that is zero has the power zero.

Key definitions: `Numeral.Digits`, `Numeral.IsNumber`.
Key theorems: `Numeral.isNumber_natNumeral`, `Numeral.isNumber_intNumeral`,
`Numeral.isNumber_write`, `natNumeral_injective`.
-/
import CallChain.Rendered.Layout
import Mathlib.Data.List.Basic

namespace CallChain

/-- Different numbers are written differently. -/
theorem natNumeral_injective : Function.Injective natNumeral := by
  intro m n h
  have hread : Nat.ofDigitChars 10 (natNumeral m) 0 = Nat.ofDigitChars 10 (natNumeral n) 0 := by rw [h]
  unfold natNumeral at hread
  rwa [Nat.ofDigitChars_ten_toDigits, Nat.ofDigitChars_ten_toDigits] at hread

namespace Numeral

/-! ### The grammar -/

/-- One digit or more. -/
def Digits (ds : List Char) : Prop :=
  ds ≠ [] ∧ ∀ d ∈ ds, d.isDigit = true

inductive Sign : List Char → Prop
  | none : Sign []
  | minus : Sign ['-']

/-- The digits before the point. -/
inductive Whole : List Char → Prop
  | zero : Whole ['0']
  | digits {ds : List Char} (h : Digits ds) (head : ds.head? ≠ some '0') : Whole ds

inductive Fraction : List Char → Prop
  | none : Fraction []
  | digits {ds : List Char} (h : Digits ds) : Fraction ('.' :: ds)

inductive Power : List Char → Prop
  | none : Power []
  | digits {e : Char} {sign ds : List Char} (he : e = 'e' ∨ e = 'E')
      (hsign : sign = [] ∨ sign = ['+'] ∨ sign = ['-']) (h : Digits ds) : Power (e :: (sign ++ ds))

/-- The number tokens of JSON. -/
inductive IsNumber : List Char → Prop
  | mk {sign whole fraction power : List Char} (hsign : Sign sign) (hwhole : Whole whole)
      (hfraction : Fraction fraction) (hpower : Power power) :
      IsNumber (sign ++ (whole ++ (fraction ++ power)))

/-- The characters of number tokens. -/
def Character (c : Char) : Prop :=
  c.isDigit = true ∨ c = '-' ∨ c = '+' ∨ c = '.' ∨ c = 'e' ∨ c = 'E'

theorem Digits.characters {ds : List Char} (h : Digits ds) : ∀ c ∈ ds, Character c :=
  fun c hc => .inl (h.2 c hc)

theorem Whole.digits_of {whole : List Char} (h : Whole whole) : Digits whole := by
  cases h with
  | zero => exact ⟨List.cons_ne_nil _ _, by simp⟩
  | digits h _ => exact h

theorem IsNumber.characters {t : List Char} (h : IsNumber t) : ∀ c ∈ t, Character c := by
  obtain ⟨hsign, hwhole, hfraction, hpower⟩ := h
  intro c hc
  simp only [List.mem_append] at hc
  rcases hc with hc | hc | hc | hc
  · cases hsign with
    | none => cases hc
    | minus => exact .inr (.inl (by simpa using hc))
  · exact hwhole.digits_of.characters c hc
  · cases hfraction with
    | none => cases hc
    | digits h =>
      rcases List.mem_cons.1 hc with rfl | hc
      · simp [Character]
      · exact h.characters c hc
  · cases hpower with
    | none => cases hc
    | digits he hs h =>
      rcases List.mem_cons.1 hc with rfl | hc
      · rcases he with rfl | rfl <;> simp [Character]
      · rcases List.mem_append.1 hc with hc | hc
        · rcases hs with rfl | rfl | rfl
          · cases hc
          · simp_all [Character]
          · simp_all [Character]
        · exact h.characters c hc

/-- A number token begins with a minus or a digit. -/
theorem IsNumber.head {t : List Char} (h : IsNumber t) :
    ∃ c rest, t = c :: rest ∧ (c = '-' ∨ c.isDigit = true) := by
  obtain ⟨hsign, hwhole, -, -⟩ := h
  cases hsign with
  | minus => exact ⟨'-', _, rfl, .inl rfl⟩
  | none =>
    obtain ⟨hne, hdigits⟩ := hwhole.digits_of
    obtain ⟨c, rest, rfl⟩ := List.exists_cons_of_ne_nil hne
    exact ⟨c, _, rfl, .inr (hdigits c List.mem_cons_self)⟩

/-! ### Whole numbers -/

theorem digits_toDigits (n : Nat) : Digits (Nat.toDigits 10 n) :=
  ⟨Nat.toDigits_ne_nil, fun _ hd => Nat.isDigit_of_mem_toDigits (by decide) (by decide) hd⟩

/-- A positive number has no leading zero. -/
theorem head_toDigits {n : Nat} (h : 0 < n) : (Nat.toDigits 10 n).head? ≠ some '0' := by
  induction n using Nat.strongRecOn with
  | ind n ih =>
    rcases Nat.lt_or_ge n 10 with hn | hn
    · rw [Nat.toDigits_of_lt_base hn]
      simp only [List.head?_cons, ne_eq, Option.some.injEq, Nat.digitChar_eq_zero]
      omega
    · rw [Nat.toDigits_of_base_le (by decide) hn, List.head?_append_of_ne_nil _ Nat.toDigits_ne_nil]
      exact ih (n / 10) (by omega) (by omega)

theorem whole_natNumeral (n : Nat) : Whole (natNumeral n) := by
  rcases Nat.eq_zero_or_pos n with rfl | hn
  · exact .zero
  · exact .digits (digits_toDigits n) (head_toDigits hn)

theorem isNumber_of_whole {sign whole : List Char} (hsign : Sign sign) (h : Whole whole) :
    IsNumber (sign ++ whole) := by
  have hnumber := IsNumber.mk hsign h .none .none
  rwa [List.append_nil, List.append_nil] at hnumber

theorem isNumber_natNumeral (n : Nat) : IsNumber (natNumeral n) :=
  isNumber_of_whole .none (whole_natNumeral n)

theorem isNumber_intNumeral : ∀ n : Int, IsNumber (intNumeral n)
  | .ofNat n => isNumber_natNumeral n
  | .negSucc n => isNumber_of_whole .minus (whole_natNumeral (n + 1))

/-! ### The shortest decimal -/

/-- A decimal whose coefficient has no leading zero: a positive one, or plain zero. -/
def Proper (d : Decimal) : Prop :=
  0 < d.coefficient ∨ d = ⟨0, 0⟩

theorem trim_pos : ∀ (fuel : Nat) {d : Decimal}, 0 < d.coefficient → 0 < (Decimal.trim fuel d).coefficient
  | 0, _, h => h
  | fuel + 1, d, h => by
    unfold Decimal.trim
    split
    · rename_i hzero
      exact trim_pos fuel (show 0 < d.coefficient / 10 by omega)
    · exact h

/-- Zero does not read back as a positive number. -/
theorem not_holds_zero {m : Nat} (hm : 0 < m) (q : Int) (atPower : Bool) (power : Int) :
    (Grid.around m q atPower power).holds 0 = false := by
  have hlow : 0 < (Grid.around m q atPower power).low := by
    have hscale : 0 < Nat.pow 2 (q - 2).toNat * Nat.pow 10 (-power).toNat :=
      Nat.mul_pos (Nat.pow_pos (by decide)) (Nat.pow_pos (by decide))
    refine Nat.mul_pos ?_ hscale
    split <;> omega
  unfold Grid.holds
  split
  · simp
    omega
  · simp

theorem nearest?_pos {m : Nat} (hm : 0 < m) {q : Int} {atPower : Bool} {power : Int} {tie : Tie} {k : Nat}
    (h : (Grid.around m q atPower power).nearest? tie = some k) : 0 < k := by
  have hzero := not_holds_zero hm q atPower power
  generalize Grid.around m q atPower power = g at h hzero
  -- the lower neighbour is taken only where it reads back, so it is not zero
  have hlower : g.holds (g.value / g.unit) = true → 0 < g.value / g.unit := by
    intro hholds
    refine Nat.pos_of_ne_zero fun hk => ?_
    rw [hk, hzero] at hholds
    cases hholds
  have hupper : 0 < g.value / g.unit + 1 := Nat.succ_pos _
  unfold Grid.nearest? at h
  simp only at h
  split at h
  · cases h
  · rename_i hholds _
    cases h
    exact hlower hholds
  · cases h
    exact hupper
  · rename_i hholds _
    split at h
    · cases h
      exact hlower hholds
    · split at h
      · cases h
        exact hupper
      · cases tie with
        | up =>
          cases h
          exact hupper
        | even =>
          simp only at h
          split at h <;> cases h
          · exact hlower hholds
          · exact hupper

theorem proper_shortestFrom {m : Nat} (hm : 0 < m) (tie : Tie) (q : Int) (atPower : Bool) (top : Int) :
    ∀ fuel count : Nat, Proper (shortestFrom tie m q atPower top fuel count)
  | 0, _ => .inr rfl
  | fuel + 1, count => by
    unfold shortestFrom
    simp only
    split
    · rename_i k hk
      exact .inl (trim_pos 20 (nearest?_pos hm hk))
    · exact proper_shortestFrom hm tie q atPower top fuel (count + 1)

/-! ### Doubles -/

theorem digits_append {as bs : List Char} (ha : Digits as) (hb : ∀ b ∈ bs, b.isDigit = true) :
    Digits (as ++ bs) := by
  refine ⟨List.append_ne_nil_of_left_ne_nil ha.1 _, fun d hd => ?_⟩
  rcases List.mem_append.1 hd with hd | hd
  · exact ha.2 d hd
  · exact hb d hd

theorem isDigit_of_mem_zeros {k : Nat} : ∀ d ∈ List.replicate k '0', d.isDigit = true := by
  intro d hd
  rw [List.eq_of_mem_replicate hd]
  decide

theorem whole_append {ds zeros : List Char} (h : Digits ds) (head : ds.head? ≠ some '0')
    (hzeros : ∀ d ∈ zeros, d.isDigit = true) : Whole (ds ++ zeros) := by
  refine .digits (digits_append h hzeros) ?_
  rwa [List.head?_append_of_ne_nil _ h.1]

/-- Positional notation: digits without a leading zero, or a zero before the point. -/
theorem isNumber_plain {sign ds : List Char} (hsign : Sign sign) (h : Digits ds)
    {exponent : Int} (head : ds.head? ≠ some '0' ∨ (ds = ['0'] ∧ exponent = 0)) :
    IsNumber (sign ++ artifactNumeral.plain ds exponent) := by
  have hpointZero : Fraction ['.', '0'] := .digits ⟨List.cons_ne_nil _ _, by simp⟩
  unfold NumeralStyle.plain
  split
  · -- below one: zeros after the point
    have hfraction : Fraction ('.' :: (List.replicate (-exponent - 1).toNat '0' ++ ds)) := by
      refine .digits ⟨List.append_ne_nil_of_right_ne_nil _ h.1, fun d hd => ?_⟩
      rcases List.mem_append.1 hd with hd | hd
      · exact isDigit_of_mem_zeros d hd
      · exact h.2 d hd
    have hnumber := IsNumber.mk hsign .zero hfraction .none
    rwa [List.append_nil] at hnumber
  · simp only
    split
    · -- a whole number: zeros before the point
      have hwhole : Whole (ds ++ List.replicate (exponent.toNat + 1 - ds.length) '0') := by
        rcases head with head | ⟨rfl, rfl⟩
        · exact whole_append h head isDigit_of_mem_zeros
        · exact .zero
      have hnumber := IsNumber.mk hsign hwhole hpointZero .none
      rwa [List.append_nil] at hnumber
    · rename_i hlong
      have hlength : exponent.toNat + 1 < ds.length := Nat.lt_of_not_le hlong
      have head : ds.head? ≠ some '0' := by
        rcases head with head | ⟨rfl, rfl⟩
        · exact head
        · exact absurd hlength (by decide)
      have hwhole : Whole (ds.take (exponent.toNat + 1)) := by
        refine .digits ⟨?_, fun d hd => h.2 d (List.mem_of_mem_take hd)⟩ ?_
        · exact List.ne_nil_of_length_pos (by rw [List.length_take]; omega)
        · rwa [List.head?_take, if_neg (Nat.succ_ne_zero _)]
      have hfraction : Fraction ('.' :: ds.drop (exponent.toNat + 1)) := by
        refine .digits ⟨?_, fun d hd => h.2 d (List.mem_of_mem_drop hd)⟩
        exact List.ne_nil_of_length_pos (by rw [List.length_drop]; omega)
      have hnumber := IsNumber.mk hsign hwhole hfraction .none
      rwa [List.append_nil] at hnumber

theorem isNumber_plain_zero {sign : List Char} (hsign : Sign sign) :
    IsNumber (sign ++ artifactNumeral.plain ['0'] 0) :=
  isNumber_plain hsign Whole.zero.digits_of (.inr ⟨rfl, rfl⟩)

/-- Scientific notation: one digit before the point, which is not zero. -/
theorem isNumber_scientific {sign ds : List Char} (hsign : Sign sign) (h : Digits ds)
    (head : ds.head? ≠ some '0') (exponent : Int) :
    IsNumber (sign ++ NumeralStyle.scientific ds exponent) := by
  have hpower : Power ('e' :: ([if exponent < 0 then '-' else '+'] ++ natNumeral exponent.natAbs)) := by
    refine .digits (.inl rfl) (.inr ?_) (digits_toDigits exponent.natAbs)
    split
    · exact .inr rfl
    · exact .inl rfl
  cases ds with
  | nil => exact absurd rfl h.1
  | cons d rest =>
    have hwhole : Whole [d] := .digits ⟨List.cons_ne_nil _ _, by simpa using h.2 d⟩ head
    cases rest with
    | nil => exact IsNumber.mk hsign hwhole .none hpower
    | cons d' rest =>
      have hfraction : Fraction ('.' :: d' :: rest) :=
        .digits ⟨List.cons_ne_nil _ _, fun c hc => h.2 c (List.mem_cons_of_mem _ hc)⟩
      exact IsNumber.mk hsign hwhole hfraction hpower

theorem isNumber_writeDecimal {sign : List Char} (hsign : Sign sign) {d : Decimal} (h : Proper d) :
    IsNumber (sign ++ artifactNumeral.writeDecimal d) := by
  have hdigits : Digits d.digits := digits_toDigits d.coefficient
  rcases h with hpos | rfl
  · have head : d.digits.head? ≠ some '0' := head_toDigits hpos
    unfold NumeralStyle.writeDecimal
    split
    · exact isNumber_plain hsign hdigits (.inl head)
    · exact isNumber_scientific hsign hdigits head _
  · exact isNumber_plain_zero hsign

/-- A double that JSON can spell is zero or has a positive significand. -/
theorem magnitude_of_isFinite {x : Binary64} (h : x.isFinite = true) :
    x.magnitude = .zero ∨ ∃ m q atPower, x.magnitude = .finite m q atPower ∧ 0 < m := by
  have hfinite : x.exponentField ≠ 2047 := by simpa [Binary64.isFinite] using h
  unfold Binary64.magnitude
  rw [if_neg hfinite]
  split
  · split
    · exact .inl rfl
    · rename_i hfraction
      exact .inr ⟨_, _, _, rfl, Nat.pos_of_ne_zero hfraction⟩
  · exact .inr ⟨_, _, _, rfl, Nat.add_pos_left (Nat.pow_pos (by decide)) _⟩

/-- A double that JSON can spell is written as a JSON number. -/
theorem isNumber_write {x : Binary64} (h : x.isFinite = true) : IsNumber (artifactNumeral.write x) := by
  have hsigned : ∀ {text : List Char}, (∀ {sign : List Char}, Sign sign → IsNumber (sign ++ text)) →
      IsNumber (if x.isNegative then '-' :: text else text) := by
    intro text htext
    split
    · exact htext .minus
    · exact htext .none
  unfold NumeralStyle.write
  rcases magnitude_of_isFinite h with hzero | ⟨m, q, atPower, hfinite, hm⟩
  · rw [hzero]
    exact hsigned isNumber_plain_zero
  · rw [hfinite]
    exact hsigned fun hsign => isNumber_writeDecimal hsign (proper_shortestFrom hm _ _ _ _ _ _)

end Numeral

end CallChain
