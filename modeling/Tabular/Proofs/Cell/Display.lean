import Tabular.Proofs.Cell.Reading
import Tabular.Proofs.Number.Written
import Tabular.Proofs.Table.Frame
import Tabular.Proofs.Text.Pieces
import Tabular.Proofs.Text.Recasing
import Tabular.Proofs.View.Comparison

namespace Tabular

/-!
# Displayed numbers

The display text of a cell is read as the number of the cell: numbers are displayed as numerals that
read back, and whole numbers as their digits, where a negative zero loses its sign. What is no
number is not displayed as one.
-/

/-! ## Numerals -/

namespace Decimal

variable {characters rest : List Char} {first : Char}

/-- After a digit no word is read and no further sign. -/
theorem read?_of_digit_ahead
    (negative : Bool)
    (isDigit : first.isDigit = true) :
    read? (if negative then '-' :: first :: rest else first :: rest) =
      readUnsigned? negative (first :: rest) := by
  have noSign : first ≠ '-' ∧ first ≠ '+' := by
    constructor <;> (rintro rfl; cases isDigit)
  have parts :
      takeSign (if negative then '-' :: first :: rest else first :: rest) =
        (negative, first :: rest) := by
    cases negative with
    | true =>
        rfl
    | false =>
        rw [if_neg Bool.false_ne_true, takeSign_cons, if_neg noSign.1, if_neg noSign.2]
  have noWord (word : String)
      (startsOtherwise : word.toList.head?.any Char.isDigit = false) :
      String.ofList ((first :: rest).map Char.toLower) ≠ word := by
    rintro rfl
    rw [String.toList_ofList, List.map_cons, toLower_of_isDigit isDigit, List.head?_cons,
      Option.any_some, isDigit] at startsOtherwise
    cases startsOtherwise
  rw [read?, parts]
  simp only
  rw [if_neg, if_neg]
  · exact noWord "nan" (by decide)
  · exact not_or.mpr ⟨noWord "inf" (by decide), noWord "infinity" (by decide)⟩

/-- The characters of a numeral are read as its number. -/
theorem read?_numeral
    (numeral : Numeral)
    (negative : Bool) :
    read? (if negative then '-' :: numeral.characters else numeral.characters) =
      some (numeral.number negative) := by
  obtain ⟨first, further, isWhole⟩ := List.exists_cons_of_ne_nil numeral.wholeIsDigits.nonempty
  have isDigit := numeral.wholeIsDigits.all first (isWhole ▸ List.mem_cons_self)
  have parts :
      numeral.characters =
        first :: (further ++ numeral.fractionCharacters ++ numeral.exponentCharacters) := by
    rw [Numeral.characters, isWhole]
    rfl
  rw [← numeral.readUnsigned?_characters negative, parts, read?_of_digit_ahead negative isDigit]

/-- A hyphen after digits is not part of a number. -/
theorem read?_of_hyphen
    {digits : List Char}
    (negative : Bool)
    (areDigits : IsDigits digits) :
    read? (if negative then '-' :: (digits ++ '-' :: rest) else digits ++ '-' :: rest) = none := by
  obtain ⟨first, further, rfl⟩ := List.exists_cons_of_ne_nil areDigits.nonempty
  have noDigit : NoDigitAhead ('-' :: rest) := by
    rintro _ ⟨rfl⟩
    decide
  have noExponent : readExponent? ('-' :: rest) = none := rfl
  rw [List.cons_append,
    read?_of_digit_ahead negative (areDigits.all first List.mem_cons_self), ← List.cons_append,
    readUnsigned?_eq, spanDigits_append areDigits.all noDigit]
  simp [spanFraction, noExponent]

/-- Integers in range have at most four hundred digits. -/
theorem digitCount_le_of_lt_intLimit
    {value : Nat}
    (inRange : value < Binary64.intLimit) :
    digitCount value ≤ 400 := by
  rw [digitCount]
  split
  · exact Nat.zero_le _
  · rw [Nat.length_toDigits_le_iff (by decide) (by decide)]
    exact inRange.trans (by decide +kernel)

/-- A numeral of digits only tells the number nearest to its value. -/
theorem toBinary64_of_lt_intLimit
    {value : Nat}
    (negative : Bool)
    (inRange : value < Binary64.intLimit) :
    toBinary64 negative value 0 = Binary64.ofRatio negative value 1 := by
  rcases Nat.eq_zero_or_pos value with rfl | positive
  · rfl
  · have short := digitCount_le_of_lt_intLimit inRange
    exact toBinary64_eq_ofRatio negative positive Nat.one_pos (by omega) (by omega) (by norm_num)

/-- An integer in range is written as a numeral of the nearest number. -/
theorem read?_ofInt
    {value : Int}
    (inRange : value.natAbs < Binary64.intLimit) :
    read? (ofInt value).toList = some (Binary64.ofInt value) := by
  have isNumeral : (naturalNumeral value.natAbs).characters = digits value.natAbs := by
    simp [Numeral.characters, Numeral.fractionCharacters, Numeral.exponentCharacters,
      naturalNumeral]
  have isNumber :
      (naturalNumeral value.natAbs).number (decide (value < 0)) = Binary64.ofInt value := by
    rw [Binary64.ofInt, ← toBinary64_of_lt_intLimit _ inRange]
    simp [Numeral.number, Numeral.fractionDigits, Numeral.exponentValue, naturalNumeral]
  rw [ofInt, String.toList_ofList, ← isNumeral, ← isNumber, ← read?_numeral]
  simp only [decide_eq_true_eq]

end Decimal

/-- A finite number is written as a numeral of itself. -/
theorem Binary64.read?_written
    {number : Binary64}
    (isFinite : number.isFinite = true) :
    Decimal.read? number.written.toList = some number := by
  cases number with
  | nan | infinite _ =>
      cases isFinite
  | finite negative significand exponent canonical =>
      rw [written, writtenAs, String.toList_ofList]
      rcases Nat.eq_zero_or_pos significand with rfl | positive
      · obtain ⟨-, -, -, normal | rfl⟩ := canonical
        · exact absurd normal (by decide)
        · exact Decimal.read?_numeral Decimal.zeroNumeral negative
      · obtain ⟨numeral, isNumeral, -, isNumber⟩ :=
          exists_numeral FloatFormat.plain canonical positive
        rw [if_neg positive.ne', isNumeral, Decimal.read?_numeral, isNumber]

namespace Cell

/-! ## Texts that are numerals -/

theorem numberOfText?_of_read?
    {text : String}
    {number : Binary64}
    (isRead : Decimal.read? text.toList = some number)
    (isFinite : number.isFinite = true) :
    numberOfText? text = some number := by
  have spelled := Decimal.read?_spelled isRead isFinite
  have noBlanks : ∀ character ∈ text.toList, Text.isBlankCharacter character = false :=
    fun character member => Text.not_blank_of_numeral (spelled character member)
  rw [numberOfText?_eq, Text.trimBoth_of_no_blanks noBlanks, finiteNumber?,
    if_pos (List.all_eq_true.mpr spelled), isRead, Option.filter_some, if_pos isFinite]

theorem numberOfText?_of_not_read?
    {text : String}
    (noBlanks : ∀ character ∈ text.toList, Text.isBlankCharacter character = false)
    (notRead : Decimal.read? text.toList = none) :
    numberOfText? text = none := by
  rw [numberOfText?_eq, Text.trimBoth_of_no_blanks noBlanks, finiteNumber?, notRead]
  exact ite_self _

/-- A text with a character that is neither blank nor part of numerals is no number. -/
theorem numberOfText?_of_other
    {text : String}
    {character : Char}
    (member : character ∈ text.toList)
    (isOther : Text.IsOther character) :
    numberOfText? text = none := by
  rw [numberOfText?_eq]
  exact finiteNumber?_of_hasOther ⟨character, Text.mem_trimBoth member isOther.1, isOther.2⟩

/-! ## Displayed cells -/

theorem number?_text
    (text : String) :
    number? (.text text) = .ok (numberOfText? text) :=
  rfl

theorem lt_intLimit_of_isReadable
    {value : Int}
    (readable : (Cell.int value).IsReadable) :
    value.natAbs < Binary64.intLimit := by
  obtain ⟨number, isNumber⟩ := readable
  by_contra tooLarge
  have isFault := Amount.realOfInt_eq_error_iff.mpr ⟨rfl, not_lt.mp tooLarge⟩
  rw [number?, isFault] at isNumber
  cases isNumber

theorem realOfInt_of_lt_intLimit
    {value : Int}
    (inRange : value.natAbs < Binary64.intLimit) :
    Amount.realOfInt value = .ok (Binary64.ofInt value) ∧
      (Binary64.ofInt value).isFinite = true := by
  obtain ⟨significand, exponent, canonical, finite⟩ | infinite :=
    Binary64.ofRatio_cases (decide (value < 0)) value.natAbs 1
  · rw [Amount.realOfInt, Binary64.ofInt, finite]
    exact ⟨rfl, rfl⟩
  · have isFault : Amount.realOfInt value = .error .overflow := by
      rw [Amount.realOfInt, Binary64.ofInt, infinite]
    exact absurd (Amount.realOfInt_eq_error_iff.mp isFault).2 (not_le.mpr inRange)

theorem number?_display_int
    {value : Int}
    (inRange : value.natAbs < Binary64.intLimit) :
    number? (.text (Decimal.ofInt value)) = .ok (some (Binary64.ofInt value)) := by
  rw [number?_text,
    numberOfText?_of_read? (Decimal.read?_ofInt inRange) (realOfInt_of_lt_intLimit inRange).2]

/-- A displayed finite number is read as the number, apart from the sign of zero. -/
theorem readAlike_displayFloat
    {number : Binary64}
    (isFinite : number.isFinite = true) :
    ReadAlike (.float number) (.text (displayFloat number)) := by
  have isNumber : number? (.float number) = .ok (some number) :=
    congrArg Except.ok (if_pos isFinite)
  have asWritten : ReadAlike (.float number) (.text number.written) :=
    readAlike_of_number? isNumber
      (congrArg Except.ok (numberOfText?_of_read? (Binary64.read?_written isFinite) isFinite))
  have notNaN : ¬number.isNaN = true := by
    cases number with
    | nan =>
        cases isFinite
    | infinite _ | finite _ _ _ _ =>
        exact Bool.false_ne_true
  rw [displayFloat]
  split
  · next whole isWhole =>
      split
      · next small =>
          have isValue := Binary64.toInt?_eq_some_iff.mp isWhole
          have limit : Nat.pow 10 21 ≤ Binary64.intLimit := by decide +kernel
          refine ⟨_, _, isNumber, number?_display_int (small.trans_le limit), ?_⟩
          rw [Option.map_some, Option.map_some,
            Binary64.unsigned_eq_of_value isValue (Binary64.value?_ofInt_of_value isValue)]
      · exact asWritten
  · rw [if_neg notNaN]
    exact asWritten

theorem isDigits_padded
    (width value : Nat) :
    Decimal.IsDigits (Calendar.padded width value) :=
  Decimal.isDigits_padFront width (Decimal.isDigits_digits value)

theorem not_blank_of_isDigits
    {digits : List Char}
    (areDigits : Decimal.IsDigits digits) :
    ∀ character ∈ digits, Text.isBlankCharacter character = false :=
  fun character member =>
    Text.not_blank_of_numeral
      (Decimal.isNumeralCharacter_of_isDigit (areDigits.all character member))

/-- A date is written as a sign, or none, digits and a hyphen with more behind it. -/
theorem exists_written_date
    (date : Calendar.Date) :
    ∃ digits rest, Decimal.IsDigits digits ∧
      (∀ character ∈ digits ++ '-' :: rest, Text.isBlankCharacter character = false) ∧
        date.written =
          if date.year < 0 then '-' :: (digits ++ '-' :: rest) else digits ++ '-' :: rest := by
  refine
    ⟨Calendar.padded 4 date.year.natAbs,
      Calendar.padded 2 date.month ++ '-' :: Calendar.padded 2 date.day,
      isDigits_padded 4 date.year.natAbs, ?_, ?_⟩
  · have hyphen : Text.isBlankCharacter '-' = false := by decide
    simp only [List.forall_mem_append, List.forall_mem_cons]
    exact
      ⟨not_blank_of_isDigits (isDigits_padded 4 date.year.natAbs), hyphen,
        not_blank_of_isDigits (isDigits_padded 2 date.month), hyphen,
        not_blank_of_isDigits (isDigits_padded 2 date.day)⟩
  · rw [Calendar.Date.written, Calendar.writtenYear]
    split <;> simp only [List.cons_append, List.append_assoc]

/-- The hyphens of a date are no part of a number. -/
theorem numberOfText?_date
    (date : Calendar.Date) :
    numberOfText? (String.ofList date.written) = none := by
  obtain ⟨digits, rest, areDigits, noBlanks, isWritten⟩ := exists_written_date date
  apply numberOfText?_of_not_read?
  · rw [String.toList_ofList, isWritten]
    split
    · exact List.forall_mem_cons.mpr ⟨by decide, noBlanks⟩
    · exact noBlanks
  · rw [String.toList_ofList, isWritten]
    simpa only [decide_eq_true_eq] using
      Decimal.read?_of_hyphen (decide (date.year < 0)) areDigits

/-- There is a colon in the clock time of a moment. -/
theorem numberOfText?_moment
    (moment : Calendar.Moment) :
    numberOfText? (moment.written ' ') = none := by
  have isOther : Text.IsOther ':' := by decide +kernel
  refine numberOfText?_of_other ?_ isOther
  simp [Calendar.Moment.written, Calendar.Clock.written]

/-- The display text of a cell is read as the number that the cell is read as. -/
theorem readAlike_display
    {cell : Cell}
    (readable : cell.IsReadable) :
    ReadAlike cell (.text cell.display) := by
  have both
      {shown : String}
      (isNone : numberOfText? shown = none)
      (noNumber : cell.number? = .ok none) :
      ReadAlike cell (.text shown) :=
    readAlike_of_number? noNumber (congrArg Except.ok isNone)
  cases cell with
  | null =>
      exact both (by decide +kernel) rfl
  | bool value =>
      cases value <;> exact both (by decide +kernel) rfl
  | int value =>
      have inRange := lt_intLimit_of_isReadable readable
      refine readAlike_of_number? ?_ (number?_display_int inRange)
      rw [number?, (realOfInt_of_lt_intLimit inRange).1]
      rfl
  | float value =>
      cases value with
      | nan =>
          exact both (by decide +kernel) rfl
      | infinite negative =>
          cases negative <;> exact both (by decide +kernel) rfl
      | finite negative significand exponent canonical =>
          exact readAlike_displayFloat rfl
  | text text =>
      exact readAlike_of_number? rfl rfl
  | date value =>
      exact both (numberOfText?_date value) rfl
  | moment value =>
      exact both (numberOfText?_moment value) rfl

end Cell

end Tabular
