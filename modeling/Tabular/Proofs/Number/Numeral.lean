import Mathlib.Algebra.Group.Nat.Defs
import Mathlib.Data.List.Basic
import Tabular.Number.Written

namespace Tabular

/-!
# Numerals

The parts of an unsigned numeral: its whole digits, the digits after its point, and its exponent. A
numeral is read by its parts, so what is written as the characters of a numeral is the number that
the parts tell.
-/

namespace Decimal

/-! ## Digits -/

/-- The characters are digits, and there is one. -/
structure IsDigits (characters : List Char) : Prop where
  nonempty : characters ≠ []
  all : ∀ character ∈ characters, character.isDigit

theorem isDigits_digits
    (value : Nat) :
    IsDigits (digits value) where
  nonempty := Nat.toDigits_ne_nil
  all _ member := Nat.isDigit_of_mem_toDigits (by decide) (by decide) member

theorem isDigits_zero :
    IsDigits ['0'] :=
  isDigits_digits 0

theorem isDigit_of_mem_zeros
    {count : Nat}
    {character : Char}
    (member : character ∈ List.replicate count '0') :
    character.isDigit := by
  rw [List.eq_of_mem_replicate member]
  rfl

theorem isDigits_padFront
    {characters : List Char}
    (width : Nat)
    (areDigits : IsDigits characters) :
    IsDigits (padFront width characters) where
  nonempty := by
    simp [padFront, areDigits.nonempty]
  all character member := by
    rcases List.mem_append.mp member with zero | digit
    · exact isDigit_of_mem_zeros zero
    · exact areDigits.all character digit

/-- The value of digits is the one of the standard library. -/
theorem digitsValue_eq
    (characters : List Char) :
    digitsValue characters = Nat.ofDigitChars 10 characters 0 :=
  rfl

@[simp] theorem digitsValue_digits
    (value : Nat) :
    digitsValue (digits value) = value :=
  Nat.ofDigitChars_ten_toDigits

/-- Digits before others count by the length of these. -/
theorem digitsValue_append
    (front back : List Char) :
    digitsValue (front ++ back) =
      digitsValue front * 10 ^ back.length + digitsValue back := by
  rw [digitsValue_eq, Nat.ofDigitChars_append,
    Nat.ofDigitChars_eq_ofDigitChars_zero, Nat.mul_comm]
  rfl

@[simp] theorem digitsValue_zeros
    (count : Nat) :
    digitsValue (List.replicate count '0') = 0 := by
  rw [digitsValue_eq, Nat.ofDigitChars_replicate_zero, Nat.mul_zero]

@[simp] theorem digitsValue_padFront
    (width : Nat)
    (characters : List Char) :
    digitsValue (padFront width characters) = digitsValue characters := by
  rw [padFront, digitsValue_append, digitsValue_zeros, Nat.zero_mul,
    Nat.zero_add]

/-- Digits have a value below the power of ten of their number. -/
theorem digitsValue_lt
    {characters : List Char}
    (areDigits : ∀ character ∈ characters, character.isDigit) :
    digitsValue characters < 10 ^ characters.length := by
  induction characters with
  | nil =>
      decide
  | cons first rest inductionHypothesis =>
      have small : digitsValue [first] ≤ 9 := by
        have isDigit := areDigits first List.mem_cons_self
        simp only [Char.isDigit, Bool.and_eq_true, decide_eq_true_eq] at isDigit
        have bound : first.toNat ≤ 57 := isDigit.2
        simp only [digitsValue, List.foldl_cons, List.foldl_nil]
        change 10 * 0 + (first.toNat - 48) ≤ 9
        omega
      have restSmall :=
        inductionHypothesis fun character member =>
          areDigits character (List.mem_cons_of_mem first member)
      rw [← List.singleton_append, digitsValue_append, List.length_append,
        List.length_singleton, Nat.pow_add]
      calc
        digitsValue [first] * 10 ^ rest.length + digitsValue rest <
            digitsValue [first] * 10 ^ rest.length + 10 ^ rest.length := by
          omega
        _ = (digitsValue [first] + 1) * 10 ^ rest.length := by
          rw [Nat.add_mul, Nat.one_mul]
        _ ≤ 10 ^ 1 * 10 ^ rest.length :=
          Nat.mul_le_mul_right _ (by omega)

/-- The written digits of a positive number do not start with a zero. -/
theorem head?_digits
    {value : Nat}
    (positive : 0 < value) :
    (digits value).head? ≠ some '0' := by
  intro leading
  obtain ⟨rest, split⟩ : ∃ rest, digits value = '0' :: rest :=
    List.head?_eq_some_iff.mp leading
  have small : value < 10 ^ rest.length := by
    rw [← digitsValue_digits value, split, ← List.singleton_append,
      digitsValue_append, show digitsValue ['0'] = 0 from rfl, Nat.zero_mul,
      Nat.zero_add]
    refine digitsValue_lt fun character member => ?_
    refine (isDigits_digits value).all character ?_
    rw [split]
    exact List.mem_cons_of_mem '0' member
  rcases Nat.eq_zero_or_pos rest.length with none | some
  · rw [none] at small
    omega
  · have short :=
      (Nat.length_toDigits_le_iff (by decide) some).mpr small
    rw [← digits, split, List.length_cons] at short
    omega

/-! ## Reading digits -/

/-- The characters do not start with a digit. -/
def NoDigitAhead (characters : List Char) : Prop :=
  ∀ character ∈ characters.head?, ¬ character.isDigit

/-- Digits are taken up to the first other character. -/
theorem spanDigits_append
    {front back : List Char}
    (areDigits : ∀ character ∈ front, character.isDigit)
    (noDigit : NoDigitAhead back) :
    spanDigits (front ++ back) = (front, back) := by
  have nothing : back.takeWhile Char.isDigit = [] ∧
      back.dropWhile Char.isDigit = back := by
    cases back with
    | nil =>
        exact ⟨rfl, rfl⟩
    | cons character rest =>
        have other : character.isDigit = false :=
          Bool.eq_false_iff.mpr (noDigit character rfl)
        simp [other]
  rw [spanDigits, List.takeWhile_append_of_pos areDigits,
    List.dropWhile_append_of_pos areDigits, nothing.1, nothing.2,
    List.append_nil]

end Decimal

open Decimal

/-- The parts of an unsigned numeral. -/
structure Numeral where
  whole : List Char
  /-- The digits after the point, when there is one. -/
  fraction : Option (List Char)
  /-- The sign of the exponent, true for a minus, and its digits, when there is one. -/
  exponent : Option (Bool × List Char)
  wholeIsDigits : IsDigits whole
  fractionIsDigits : ∀ digits ∈ fraction, IsDigits digits
  exponentIsDigits : ∀ part ∈ exponent, IsDigits part.2
  /-- Only the digit zero itself starts with a zero. -/
  wholeIsPlain : whole = ['0'] ∨ whole.head? ≠ some '0'

namespace Numeral

/-- The characters of the fraction. -/
def fractionCharacters (numeral : Numeral) : List Char :=
  match numeral.fraction with
  | some digits => '.' :: digits
  | none => []

/-- The characters of the exponent. -/
def exponentCharacters (numeral : Numeral) : List Char :=
  match numeral.exponent with
  | some (negative, digits) =>
      'e' :: (if negative then '-' else '+') :: digits
  | none => []

/-- The characters of a numeral. -/
def characters (numeral : Numeral) : List Char :=
  numeral.whole ++ numeral.fractionCharacters ++ numeral.exponentCharacters

/-- The digits after the point. -/
def fractionDigits (numeral : Numeral) : List Char :=
  numeral.fraction.getD []

/-- The value of the exponent. -/
def exponentValue (numeral : Numeral) : Int :=
  match numeral.exponent with
  | some (true, digits) => -(digitsValue digits : Int)
  | some (false, digits) => digitsValue digits
  | none => 0

/-- The number that a numeral tells. -/
def number (numeral : Numeral) (negative : Bool) : Binary64 :=
  toBinary64 negative
    (digitsValue (numeral.whole ++ numeral.fractionDigits))
    (numeral.exponentValue - numeral.fractionDigits.length)

/-! ## Reading numerals -/

theorem noDigitAhead_afterWhole
    (numeral : Numeral) :
    NoDigitAhead
      (numeral.fractionCharacters ++ numeral.exponentCharacters) := by
  intro character first
  unfold fractionCharacters exponentCharacters at first
  split at first
  · cases first
    decide
  · split at first
    · cases first
      decide
    · cases first

theorem noDigitAhead_exponentCharacters
    (numeral : Numeral) :
    NoDigitAhead numeral.exponentCharacters := by
  intro character first
  unfold exponentCharacters at first
  split at first
  · cases first
    decide
  · cases first

theorem exponentCharacters_ne_point
    (numeral : Numeral)
    (rest : List Char) :
    numeral.exponentCharacters ≠ '.' :: rest := by
  unfold exponentCharacters
  split
  · simp
  · simp

theorem readExponent?_exponentCharacters
    (numeral : Numeral) :
    readExponent? numeral.exponentCharacters =
      some numeral.exponentValue := by
  unfold exponentCharacters exponentValue
  rcases part : numeral.exponent with _ | ⟨negative, digits⟩
  · rfl
  · obtain ⟨nonempty, all⟩ := numeral.exponentIsDigits (negative, digits) part
    have allDigits : digits.all Char.isDigit = true :=
      List.all_eq_true.mpr all
    have notEmpty : digits.isEmpty = false :=
      List.isEmpty_eq_false_iff.mpr nonempty
    cases negative with
    | true =>
        simp [readExponent?, takeSign, allDigits, notEmpty]
    | false =>
        simp [readExponent?, takeSign, allDigits, notEmpty]

/-- The characters of a numeral are read as the number that it tells. -/
theorem readUnsigned?_characters
    (numeral : Numeral)
    (negative : Bool) :
    readUnsigned? negative numeral.characters =
      some (numeral.number negative) := by
  have wholeRead :
      spanDigits numeral.characters =
        (numeral.whole,
          numeral.fractionCharacters ++ numeral.exponentCharacters) := by
    rw [characters, List.append_assoc]
    exact spanDigits_append numeral.wholeIsDigits.all
      numeral.noDigitAhead_afterWhole
  have notEmpty : numeral.whole.isEmpty = false :=
    List.isEmpty_eq_false_iff.mpr numeral.wholeIsDigits.nonempty
  unfold readUnsigned? number fractionDigits
  rw [wholeRead]
  unfold fractionCharacters
  rcases part : numeral.fraction with _ | digits
  · simp only [List.nil_append]
    split
    · next starts =>
        exact absurd starts (numeral.exponentCharacters_ne_point _)
    · simp [notEmpty, numeral.readExponent?_exponentCharacters]
  · simp [spanDigits_append (numeral.fractionIsDigits digits part).all
        numeral.noDigitAhead_exponentCharacters,
      notEmpty, numeral.readExponent?_exponentCharacters]

end Numeral

end Tabular
