/-
# Signatures: return types and names

A signature is cut at the first space after its last closing parenthesis. That drops a
return type which has no closing parenthesis of its own, whatever else is in it and
whatever the parameters are. Of a return type that has one, such as a pair or the type of
a function, only what follows its last closing parenthesis is cut, and the rest stays in
the method's text.

The method's name is looked for before the first opening parenthesis of that text, so
parameters and a return type that stayed never show in it. A declaring type with an opening
parenthesis, such as a container of pairs, hides the name instead: what is read is a part of
the type, and it is the same for all of its methods.

Key definitions: `Method.keptReturn`, `Method.reported`.
Key theorems: `Method.dropReturn_append`, `Method.ofParts_eq_iff`, `Method.nameIn_fullText`,
`Method.name_ofParts_eq_iff`.
-/
import CallChain.Method
import Mathlib.Data.List.TakeWhile

namespace CallChain
namespace Method

/-! ### The last closing parenthesis -/

theorem takeWhile_append_of_notMem {c : Char} {s : List Char} (h : c ∉ s) (t : List Char) :
    (s ++ t).takeWhile (· ≠ c) = s ++ t.takeWhile (· ≠ c) :=
  List.takeWhile_append_of_pos fun _ hd => decide_eq_true fun heq => h (heq ▸ hd)

theorem takeWhile_of_notMem {c : Char} {s : List Char} (h : c ∉ s) (t : List Char) :
    (s ++ c :: t).takeWhile (· ≠ c) = s := by
  rw [takeWhile_append_of_notMem h]
  simp

theorem dropWhile_of_notMem {c : Char} {s : List Char} (h : c ∉ s) (t : List Char) :
    (s ++ c :: t).dropWhile (· ≠ c) = c :: t := by
  have hs : ∀ d ∈ s, decide (d ≠ c) = true := fun d hd => decide_eq_true fun heq => h (heq ▸ hd)
  rw [List.dropWhile_append_of_pos hs]
  simp

/-- A text is split after its last closing parenthesis. -/
theorem splitAtParameters_last (s : List Char) {rest : List Char} (h : ')' ∉ rest) :
    splitAtParameters (s ++ ')' :: rest) = (s ++ [')'], rest) := by
  have hreverse : (s ++ ')' :: rest).reverse = rest.reverse ++ ')' :: s.reverse := by simp
  have hmem : ')' ∉ rest.reverse := by simpa using h
  rw [splitAtParameters, hreverse, takeWhile_of_notMem hmem, dropWhile_of_notMem hmem]
  simp

/-- What follows the last closing parenthesis is cut at its first space. -/
theorem dropReturn_last (s : List Char) {rest : List Char} (h : ')' ∉ rest) :
    dropReturn (s ++ ')' :: rest) = s ++ ')' :: rest.takeWhile (· ≠ ' ') := by
  simp [dropReturn, splitAtParameters_last s h]

/-- The last occurrence of a character splits a text. -/
theorem exists_last {c : Char} : ∀ {s : List Char}, c ∈ s → ∃ before rest, s = before ++ c :: rest ∧ c ∉ rest
  | d :: s, h => by
    by_cases hs : c ∈ s
    · obtain ⟨before, rest, rfl, hrest⟩ := exists_last hs
      exact ⟨d :: before, rest, rfl, hrest⟩
    · obtain rfl | hmem := List.mem_cons.1 h
      · exact ⟨[], s, rfl, hs⟩
      · exact absurd hmem hs

/-! ### What is dropped -/

/-- The part of a return type that stays in the signature. -/
def keptReturn (returned : List Char) : List Char :=
  if ')' ∈ returned then ' ' :: dropReturn returned else []

theorem keptReturn_eq_nil_iff {returned : List Char} : keptReturn returned = [] ↔ ')' ∉ returned := by
  simp [keptReturn]

/-- A signature keeps its parameters, and of its return type what is cut off there. -/
theorem dropReturn_append (signature returned : List Char) :
    dropReturn (signature ++ ')' :: ' ' :: returned) = signature ++ ')' :: keptReturn returned := by
  unfold keptReturn
  split
  · rename_i hmem
    obtain ⟨before, rest, rfl, hrest⟩ := exists_last hmem
    have hassoc : signature ++ ')' :: ' ' :: (before ++ ')' :: rest) =
        (signature ++ ')' :: ' ' :: before) ++ ')' :: rest := by simp
    rw [hassoc, dropReturn_last _ hrest, dropReturn_last _ hrest]
    simp
  · rename_i hmem
    rw [dropReturn_last signature (by simpa using hmem)]
    simp

/-- **A return type is dropped exactly if it has no closing parenthesis.** A signature
without a return type is kept as it is, and of a return type with a closing parenthesis
all is kept but what follows the last one from a space on. -/
theorem ofParts_eq_iff (typeName name parameters returned : String) :
    let signature := name ++ "(" ++ parameters ++ ")"
    ofParts typeName signature = ⟨typeName ++ "." ++ signature⟩ ∧
      ofParts typeName (signature ++ " " ++ returned) =
        ⟨typeName ++ "." ++ signature ++ String.ofList (keptReturn returned.toList)⟩ ∧
      (ofParts typeName (signature ++ " " ++ returned) = ofParts typeName signature ↔
        ')' ∉ returned.toList) := by
  intro signature
  have hsignature : signature.toList = (name ++ "(" ++ parameters).toList ++ [')'] := by
    simp [signature]
  have hplain : ofParts typeName signature = ⟨typeName ++ "." ++ signature⟩ := by
    have hkept : dropReturn signature.toList = signature.toList := by
      rw [hsignature, dropReturn_last _ List.not_mem_nil]
      rfl
    rw [ofParts, hkept, String.ofList_toList]
  have hreturned : ofParts typeName (signature ++ " " ++ returned) =
      ⟨typeName ++ "." ++ signature ++ String.ofList (keptReturn returned.toList)⟩ := by
    have hkept : dropReturn (signature ++ " " ++ returned).toList =
        signature.toList ++ keptReturn returned.toList := by
      rw [String.toList_append, String.toList_append, hsignature]
      simpa using dropReturn_append (name ++ "(" ++ parameters).toList returned.toList
    rw [ofParts, hkept, String.ofList_append, String.ofList_toList, ← String.append_assoc]
  refine ⟨hplain, hreturned, ?_⟩
  rw [hplain, hreturned, Method.mk.injEq, ← keptReturn_eq_nil_iff]
  simp [← String.toList_inj]

/-- A pair that is returned stays in the method's name. -/
theorem ofParts_pair :
    ofParts "shop.App" "split(i64) (i64, i64)" = ⟨"shop.App.split(i64) (i64, i64)"⟩ ∧
      ofParts "shop.App" "split(i64) (i64, i64)" ≠ ofParts "shop.App" "split(i64)" := by
  decide +kernel

/-! ### Where the name is looked for -/

theorem takeWhile_append_cons (c : Char) : ∀ s t : List Char,
    (s ++ c :: t).takeWhile (· ≠ c) = s.takeWhile (· ≠ c)
  | [], t => by simp
  | d :: s, t => by
    by_cases h : d = c
    · simp [h]
    · simpa [h] using takeWhile_append_cons c s t

/-- What follows an opening parenthesis does not show in the name. -/
theorem nameIn_append_open (s t : List Char) : nameIn (s ++ '(' :: t) = nameIn s := by
  rw [nameIn, nameIn, takeWhile_append_cons]

/-- A text with an opening parenthesis hides what follows it. -/
theorem nameIn_append_of_mem {s : List Char} (h : '(' ∈ s) (t : List Char) :
    nameIn (s ++ t) = nameIn s := by
  obtain ⟨before, rest, rfl⟩ := List.append_of_mem h
  rw [List.append_assoc, List.cons_append, nameIn_append_open, nameIn_append_open]

/-- A text without an opening parenthesis does not show in the name after a dot. -/
theorem nameIn_append_dot {s : List Char} (h : '(' ∉ s) (t : List Char) :
    nameIn (s ++ '.' :: t) = nameIn t := by
  have hhead : (s ++ '.' :: t).takeWhile (· ≠ '(') = s ++ '.' :: t.takeWhile (· ≠ '(') := by
    rw [takeWhile_append_of_notMem h, List.takeWhile_cons_of_pos (by decide)]
  have hreverse : (s ++ '.' :: t.takeWhile (· ≠ '(')).reverse =
      (t.takeWhile (· ≠ '(')).reverse ++ '.' :: s.reverse := by simp
  rw [nameIn, nameIn, hhead, hreverse, takeWhile_append_cons]

/-- A name has neither a dot nor an opening parenthesis. -/
theorem ne_of_mem_nameIn {s : List Char} {c : Char} (h : c ∈ nameIn s) : c ≠ '.' ∧ c ≠ '(' := by
  have hlast := List.mem_reverse.1 h
  have hhead := List.mem_reverse.1 ((List.takeWhile_sublist _).mem hlast)
  exact ⟨by simpa using List.mem_takeWhile_imp hlast, by simpa using List.mem_takeWhile_imp hhead⟩

/-- A text is its own name exactly if it has neither. -/
theorem nameIn_eq_self_iff {s : List Char} : nameIn s = s ↔ '.' ∉ s ∧ '(' ∉ s := by
  constructor
  · intro h
    rw [← h]
    exact ⟨fun hdot => (ne_of_mem_nameIn hdot).1 rfl, fun hopen => (ne_of_mem_nameIn hopen).2 rfl⟩
  · rintro ⟨hdot, hopen⟩
    have hhead : s.takeWhile (· ≠ '(') = s := by
      simpa using takeWhile_append_of_notMem hopen []
    have hlast : s.reverse.takeWhile (· ≠ '.') = s.reverse := by
      simpa using takeWhile_append_of_notMem (mt List.mem_reverse.1 hdot) []
    rw [nameIn, hhead, hlast, List.reverse_reverse]

/-- The name in the text of a declaring type, a dot, a method and what follows its opening
parenthesis. -/
theorem nameIn_fullText (type name rest : List Char) :
    nameIn (type ++ '.' :: (name ++ '(' :: rest)) = if '(' ∈ type then nameIn type else nameIn name := by
  split
  · rename_i hmem
    exact nameIn_append_of_mem hmem _
  · rename_i hmem
    rw [nameIn_append_dot hmem, nameIn_append_open]

/-! ### The name of a signature's method -/

/-- A signature as it is reported: a name, its parameters and, where it says so, what is
returned. -/
def reported (name parameters : String) (returned : Option String) : String :=
  name ++ "(" ++ parameters ++ ")" ++ returned.elim "" (" " ++ ·)

/-- Nothing is dropped up to a closing parenthesis. -/
theorem isPrefix_dropReturn (s t : List Char) : s ++ [')'] <+: dropReturn (s ++ ')' :: t) := by
  by_cases h : ')' ∈ t
  · obtain ⟨before, rest, rfl, hrest⟩ := exists_last h
    have hassoc : s ++ ')' :: (before ++ ')' :: rest) = (s ++ ')' :: before) ++ ')' :: rest := by simp
    rw [hassoc, dropReturn_last _ hrest]
    exact ⟨before ++ ')' :: rest.takeWhile (· ≠ ' '), by simp⟩
  · rw [dropReturn_last s h]
    exact ⟨t.takeWhile (· ≠ ' '), by simp⟩

/-- The text of a method begins with its type, a dot, its name and an opening parenthesis. -/
theorem exists_text_ofParts (typeName name parameters : String) (returned : Option String) :
    ∃ rest, (ofParts typeName (reported name parameters returned)).text.toList =
      typeName.toList ++ '.' :: (name.toList ++ '(' :: rest) := by
  have hreported : (reported name parameters returned).toList =
      (name.toList ++ '(' :: parameters.toList) ++ ')' :: (returned.elim "" (" " ++ ·)).toList := by
    simp [reported]
  obtain ⟨rest, hrest⟩ := isPrefix_dropReturn (name.toList ++ '(' :: parameters.toList)
    (returned.elim "" (" " ++ ·)).toList
  have hkept : dropReturn (reported name parameters returned).toList =
      name.toList ++ '(' :: (parameters.toList ++ ')' :: rest) := by
    rw [hreported, ← hrest]
    simp
  exact ⟨parameters.toList ++ ')' :: rest, by simp [ofParts, hkept]⟩

/-- **The name is read back exactly if the declaring type has no opening parenthesis.** That
is so for every name without a dot and an opening parenthesis, whatever the parameters and
the return type are. If the type has an opening parenthesis, the name is looked for in front
of that one. What is found there is the same for all methods of the type, so it is the name
of one of them by chance only. -/
theorem name_ofParts_eq_iff (typeName name parameters : String) (returned : Option String) :
    let m := ofParts typeName (reported name parameters returned)
    m.name = (if '(' ∈ typeName.toList then Method.name ⟨typeName⟩ else Method.name ⟨name⟩) ∧
      (m.name = name ↔
        ('(' ∉ typeName.toList ∧ '.' ∉ name.toList ∧ '(' ∉ name.toList) ∨
        ('(' ∈ typeName.toList ∧ Method.name ⟨typeName⟩ = name)) := by
  intro m
  obtain ⟨rest, htext⟩ := exists_text_ofParts typeName name parameters returned
  have hname : m.name =
      if '(' ∈ typeName.toList then Method.name ⟨typeName⟩ else Method.name ⟨name⟩ := by
    rw [Method.name, htext, nameIn_fullText, apply_ite String.ofList]
    rfl
  have hself : Method.name ⟨name⟩ = name ↔ '.' ∉ name.toList ∧ '(' ∉ name.toList := by
    rw [← nameIn_eq_self_iff, Method.name, ← String.toList_inj, String.toList_ofList]
  refine ⟨hname, ?_⟩
  rw [hname]
  by_cases hopen : '(' ∈ typeName.toList
  · simp [hopen]
  · simp [hopen, hself]

/-- A part of the type's name, up to the pair in it, stands for the name of the method. -/
theorem name_ofParts_pairs :
    (ofParts "shop.Cache<(i64, i64)>" (reported "get" "i64" (some "i64"))).name = "Cache<" ∧
      (ofParts "shop.Cache<(i64, i64)>" (reported "get" "i64" (some "i64"))).name ≠ "get" := by
  decide +kernel

end Method
end CallChain
