import Tabular.Json.Reader
import Tabular.Json.Writer
import Tabular.Proofs.Number.Written

namespace Tabular.Json

/-!
# Written numbers read back from documents

A number of a document ends where a comma or a closing bracket stands. Up to there an integer is
read back as the integer, and a finite binary64 number as the number with the same sign.
-/

open Decimal

/-- Nothing follows, or a comma or a closing bracket does. -/
def Delimited (characters : List Char) : Prop :=
  ∀ character ∈ characters.head?,
    character = ',' ∨ character = ']' ∨ character = '}'

namespace Delimited

theorem nil :
    Delimited [] :=
  nofun

theorem comma
    (rest : List Char) :
    Delimited (',' :: rest) := by
  rintro _ ⟨rfl⟩
  exact .inl rfl

theorem bracket
    (rest : List Char) :
    Delimited (']' :: rest) := by
  rintro _ ⟨rfl⟩
  exact .inr (.inl rfl)

theorem brace
    (rest : List Char) :
    Delimited ('}' :: rest) := by
  rintro _ ⟨rfl⟩
  exact .inr (.inr rfl)

/-- What delimits starts with no digit. -/
theorem noDigitAhead
    {characters : List Char}
    (delimited : Delimited characters) :
    NoDigitAhead characters := by
  intro character first isDigit
  rcases delimited character first with rfl | rfl | rfl
  · exact absurd isDigit (by decide)
  · exact absurd isDigit (by decide)
  · exact absurd isDigit (by decide)

end Delimited

/-! ## Parts of numbers -/

variable {numeral : Numeral} {rest : List Char}

/-- Digits are taken up to the first other character. -/
theorem someDigits?_append
    {front back : List Char}
    (areDigits : IsDigits front)
    (noDigit : NoDigitAhead back) :
    someDigits? (front ++ back) = some (front, back) := by
  unfold someDigits?
  rw [spanDigits_append areDigits.all noDigit]
  simp [areDigits.nonempty]

theorem spanWhole?_whole
    (numeral : Numeral)
    {back : List Char}
    (noDigit : NoDigitAhead back) :
    spanWhole? (numeral.whole ++ back) = some (numeral.whole, back) := by
  rcases numeral.wholeIsPlain with zero | first
  · rw [zero]
    rfl
  · have notZero (tail : List Char) :
        numeral.whole ++ back ≠ '0' :: tail := by
      intro starts
      apply first
      rw [← List.head?_append_of_ne_nil _ numeral.wholeIsDigits.nonempty,
        starts]
      rfl
    unfold spanWhole?
    split
    · next starts =>
        exact absurd starts (notZero _)
    · exact someDigits?_append numeral.wholeIsDigits noDigit

theorem head?_afterFraction
    (numeral : Numeral)
    (delimited : Delimited rest) :
    ∀ character ∈ (numeral.exponentCharacters ++ rest).head?,
      character = 'e' ∨ character = ',' ∨ character = ']' ∨
        character = '}' := by
  intro character first
  unfold Numeral.exponentCharacters at first
  split at first
  · cases first
    exact .inl rfl
  · exact .inr (delimited character first)

theorem noDigitAhead_afterFraction
    (numeral : Numeral)
    (delimited : Delimited rest) :
    NoDigitAhead (numeral.exponentCharacters ++ rest) := by
  intro character first isDigit
  rcases head?_afterFraction numeral delimited character first with
    rfl | rfl | rfl | rfl
  all_goals exact absurd isDigit (by decide)

theorem noDigitAhead_afterWhole
    (numeral : Numeral)
    (delimited : Delimited rest) :
    NoDigitAhead
      (numeral.fractionCharacters ++
        (numeral.exponentCharacters ++ rest)) := by
  intro character first
  unfold Numeral.fractionCharacters at first
  split at first
  · cases first
    decide
  · exact noDigitAhead_afterFraction numeral delimited character first

theorem spanFraction_fractionCharacters
    (numeral : Numeral)
    (delimited : Delimited rest) :
    spanFraction
        (numeral.fractionCharacters ++ (numeral.exponentCharacters ++ rest)) =
      (numeral.fractionCharacters, numeral.exponentCharacters ++ rest) := by
  unfold Numeral.fractionCharacters
  rcases part : numeral.fraction with _ | digits
  · have noPoint (tail : List Char) :
        numeral.exponentCharacters ++ rest ≠ '.' :: tail := by
      intro starts
      have := head?_afterFraction numeral delimited '.' (by rw [starts]; rfl)
      revert this
      decide
    unfold spanFraction
    split
    · next starts =>
        exact absurd starts (noPoint _)
    · rfl
  · have taken :=
      someDigits?_append (numeral.fractionIsDigits digits part)
        (noDigitAhead_afterFraction numeral delimited)
    simp [spanFraction, taken]

theorem spanExponent_exponentCharacters
    (numeral : Numeral)
    (delimited : Delimited rest) :
    spanExponent (numeral.exponentCharacters ++ rest) =
      (numeral.exponentCharacters, rest) := by
  unfold Numeral.exponentCharacters
  rcases part : numeral.exponent with _ | ⟨negative, digits⟩
  · cases rest with
    | nil =>
        rfl
    | cons character tail =>
        have noMark : ¬ (character = 'e' ∨ character = 'E') := by
          rcases delimited character rfl with rfl | rfl | rfl
          all_goals decide
        simp only [List.nil_append, spanExponent, if_neg noMark]
  · have taken :=
      someDigits?_append (numeral.exponentIsDigits _ part)
        delimited.noDigitAhead
    cases negative with
    | true =>
        simp [spanExponent, taken]
    | false =>
        simp [spanExponent, taken]

/-! ## Numbers -/

/-- The sign of a number. -/
def signCharacters (negative : Bool) : List Char :=
  if negative then ['-'] else []

/-- What the reader makes of a numeral: without a point and an exponent it is an integer. -/
def ofNumeral (negative : Bool) (numeral : Numeral) : Json :=
  if numeral.fraction.isNone && numeral.exponent.isNone then
    .int
      (if negative then -(digitsValue numeral.whole : Int)
        else digitsValue numeral.whole)
  else .float (numeral.number negative)

theorem isEmpty_fractionCharacters
    (numeral : Numeral) :
    numeral.fractionCharacters.isEmpty = numeral.fraction.isNone := by
  unfold Numeral.fractionCharacters
  rcases numeral.fraction with _ | digits
  · rfl
  · rfl

theorem isEmpty_exponentCharacters
    (numeral : Numeral) :
    numeral.exponentCharacters.isEmpty = numeral.exponent.isNone := by
  unfold Numeral.exponentCharacters
  rcases numeral.exponent with _ | ⟨negative, digits⟩
  · rfl
  · rfl

theorem characters_ne_minus
    (numeral : Numeral)
    (rest tail : List Char) :
    numeral.characters ++ rest ≠ '-' :: tail := by
  intro starts
  rw [Numeral.characters, List.append_assoc, List.append_assoc] at starts
  have first : numeral.whole.head? = some '-' := by
    rw [← List.head?_append_of_ne_nil _ numeral.wholeIsDigits.nonempty,
      starts]
    rfl
  exact absurd
    (numeral.wholeIsDigits.all '-' (List.mem_of_mem_head? first)) (by decide)

/-- A numeral is read after its sign, up to what delimits it. -/
theorem readNumber_characters
    (numeral : Numeral)
    (negative : Bool)
    (position : Nat)
    (delimited : Delimited rest) :
    ∃ positionAfter,
      readNumber
          ⟨position,
            signCharacters negative ++ (numeral.characters ++ rest)⟩ =
        .ok (ofNumeral negative numeral, ⟨positionAfter, rest⟩) := by
  refine
    ⟨position +
      (numeral.characters.length + if negative then 1 else 0), ?_⟩
  have wholeRead :
      spanWhole? (numeral.characters ++ rest) =
        some (numeral.whole,
          numeral.fractionCharacters ++
            (numeral.exponentCharacters ++ rest)) := by
    rw [Numeral.characters, List.append_assoc, List.append_assoc]
    exact spanWhole?_whole numeral
      (noDigitAhead_afterWhole numeral delimited)
  have signRead :
      takeMinus (signCharacters negative ++ (numeral.characters ++ rest)) =
        (negative, numeral.characters ++ rest) := by
    cases negative with
    | true =>
        rfl
    | false =>
        unfold takeMinus
        split
        · next starts =>
            exact absurd starts (characters_ne_minus numeral rest _)
        · rfl
  have advanced :
      (signCharacters negative ++ (numeral.characters ++ rest)).drop
          (numeral.characters.length + if negative then 1 else 0) =
        rest := by
    cases negative with
    | true =>
        simp [signCharacters]
    | false =>
        simp [signCharacters]
  unfold readNumber
  dsimp only
  rw [signRead]
  dsimp only
  rw [wholeRead]
  dsimp only
  rw [spanFraction_fractionCharacters numeral delimited]
  dsimp only
  rw [spanExponent_exponentCharacters numeral delimited]
  dsimp only
  rw [← Numeral.characters, isEmpty_fractionCharacters,
    isEmpty_exponentCharacters, numeral.readUnsigned?_characters,
    Cursor.advance, advanced]
  unfold ofNumeral
  split
  · rfl
  · rfl

end Tabular.Json
