import Mathlib.Data.List.TakeWhile
import Tabular.Proofs.Number.Numeral
import Tabular.Proofs.Number.Shortest

namespace Tabular

/-!
# Written numbers read back

A positive binary64 number is written as the characters of a numeral that tells the number, in
positional as well as in scientific notation. The notations only choose where the point stands.
-/

open Decimal

namespace Decimal

/-! ## Integers and zero -/

/-- The numeral of a natural number. -/
def naturalNumeral (value : Nat) : Numeral where
  whole := digits value
  fraction := none
  exponent := none
  wholeIsDigits := isDigits_digits value
  fractionIsDigits := nofun
  exponentIsDigits := nofun
  wholeIsPlain := by
    rcases Nat.eq_zero_or_pos value with rfl | positive
    · exact .inl rfl
    · exact .inr (head?_digits positive)

/-- The numeral of zero as a binary64 number. -/
def zeroNumeral : Numeral where
  whole := ['0']
  fraction := some ['0']
  exponent := none
  wholeIsDigits := isDigits_zero
  fractionIsDigits := by
    rintro _ ⟨rfl⟩
    exact isDigits_zero
  exponentIsDigits := nofun
  wholeIsPlain := .inl rfl

end Decimal

namespace Binary64

/-! ## Signs -/

/-- The number with parts and a minus is the opposite of the one without. -/
theorem ofParts_true
    (significand : Nat)
    (exponent : Int) :
    ofParts true significand exponent =
      (ofParts false significand exponent).neg := by
  unfold ofParts
  split
  · rfl
  · rfl

theorem ofRatio_true
    (numerator denominator : Nat) :
    ofRatio true numerator denominator =
      (ofRatio false numerator denominator).neg := by
  unfold ofRatio
  dsimp only
  split
  · rfl
  · split
    · exact ofParts_true _ _
    · exact ofParts_true _ _

theorem toBinary64_true
    (digits : Nat)
    (exponent : Int) :
    toBinary64 true digits exponent =
      (toBinary64 false digits exponent).neg := by
  unfold toBinary64
  split
  · rfl
  · split
    · rfl
    · split
      · rfl
      · split
        · exact ofRatio_true _ _
        · exact ofRatio_true _ _

theorem toBinary64_of_unsigned
    {digits significand : Nat}
    {power exponent : Int}
    {canonical : CanonicalPair significand exponent}
    (unsigned :
      toBinary64 false digits power =
        .finite false significand exponent canonical)
    (negative : Bool) :
    toBinary64 negative digits power =
      .finite negative significand exponent canonical := by
  cases negative with
  | false =>
      exact unsigned
  | true =>
      rw [toBinary64_true, unsigned]
      rfl

/-! ## The digits that are written -/

/-- Digits that a positive number is written with: the first one is not zero. -/
structure LeadingDigits (digits : List Char) : Prop where
  areDigits : IsDigits digits
  first : digits.head? ≠ some '0'

/-- Digits are the ones without the zeros at their end, and these zeros. -/
theorem digits_eq_kept_append_zeros
    (written : List Char) :
    ∃ zeros,
      written =
        (written.reverse.dropWhile (· == '0')).reverse ++
          List.replicate zeros '0' := by
  obtain ⟨zeros, atEnd⟩ :
      ∃ zeros,
        written.reverse.takeWhile (· == '0') = List.replicate zeros '0' :=
    ⟨_, List.eq_replicate_of_mem fun _ member => by
      simpa using List.mem_takeWhile_imp member⟩
  refine ⟨zeros, ?_⟩
  rw [← List.reverse_replicate, ← atEnd, ← List.reverse_append,
    List.takeWhile_append_dropWhile, List.reverse_reverse]

/-- The digits that are written lead with a nonzero one and keep the value. -/
theorem scientificDigits_spec
    {digits : Nat}
    (power : Int)
    (positive : 0 < digits) :
    LeadingDigits (scientificDigits digits power).1 ∧
      ∀ negative,
        toBinary64 negative (digitsValue (scientificDigits digits power).1)
            ((scientificDigits digits power).2 + 1 -
              (scientificDigits digits power).1.length) =
          toBinary64 negative digits power := by
  obtain ⟨zeros, split⟩ := digits_eq_kept_append_zeros (Decimal.digits digits)
  unfold scientificDigits
  dsimp only
  set kept := ((Decimal.digits digits).reverse.dropWhile (· == '0')).reverse
  have value : digits = digitsValue kept * 10 ^ zeros := by
    conv_lhs => rw [← digitsValue_digits digits, split]
    rw [digitsValue_append, digitsValue_zeros, List.length_replicate,
      Nat.add_zero]
  have nonempty : kept ≠ [] := by
    intro none
    rw [none] at value
    simp [digitsValue] at value
    omega
  refine ⟨⟨⟨nonempty, fun character member => ?_⟩, ?_⟩, fun negative => ?_⟩
  · refine (isDigits_digits digits).all character ?_
    rw [split]
    exact List.mem_append_left _ member
  · have first := head?_digits positive
    rwa [split, List.head?_append_of_ne_nil _ nonempty] at first
  · have length : ((Decimal.digits digits).length : Int) = kept.length + zeros := by
      conv_lhs => rw [split]
      simp
    rw [length]
    conv_rhs => rw [value]
    rw [← toBinary64_mul_pow negative (digitsValue kept) zeros]
    congr 1
    ring

/-! ## Positional notation -/

theorem LeadingDigits.take
    {digits : List Char}
    (leading : LeadingDigits digits)
    (count : Nat) :
    LeadingDigits (digits.take (count + 1)) := by
  obtain ⟨⟨nonempty, all⟩, first⟩ := leading
  refine ⟨⟨?_, fun character member => ?_⟩, ?_⟩
  · simp [nonempty]
  · exact all character (List.mem_of_mem_take member)
  · cases digits with
    | nil =>
        exact first
    | cons character rest =>
        exact first

theorem LeadingDigits.append_zeros
    {digits : List Char}
    (leading : LeadingDigits digits)
    (count : Nat) :
    LeadingDigits (digits ++ List.replicate count '0') := by
  obtain ⟨⟨nonempty, all⟩, first⟩ := leading
  refine ⟨⟨?_, fun character member => ?_⟩, ?_⟩
  · simp [nonempty]
  · rcases List.mem_append.mp member with digit | zero
    · exact all character digit
    · exact isDigit_of_mem_zeros zero
  · rwa [List.head?_append_of_ne_nil _ nonempty]

/-- The numeral of leading digits with a negative exponent in positional notation. -/
def numeralBelowOne
    {digits : List Char}
    (leading : LeadingDigits digits)
    (exponent : Int) :
    Numeral where
  whole := ['0']
  fraction := some (List.replicate (-exponent - 1).toNat '0' ++ digits)
  exponent := none
  wholeIsDigits := isDigits_zero
  fractionIsDigits := by
    rintro fraction ⟨rfl⟩
    refine ⟨by simp [leading.areDigits.nonempty], fun character member => ?_⟩
    rcases List.mem_append.mp member with zero | digit
    · exact isDigit_of_mem_zeros zero
    · exact leading.areDigits.all character digit
  exponentIsDigits := nofun
  wholeIsPlain := .inl rfl

/-- The numeral of leading digits of which all stand before the point. -/
def wholeNumeral
    {digits : List Char}
    (leading : LeadingDigits digits)
    (zeros : Nat) :
    Numeral where
  whole := digits ++ List.replicate zeros '0'
  fraction := some ['0']
  exponent := none
  wholeIsDigits := (leading.append_zeros zeros).areDigits
  fractionIsDigits := by
    rintro fraction ⟨rfl⟩
    exact isDigits_zero
  exponentIsDigits := nofun
  wholeIsPlain := .inr (leading.append_zeros zeros).first

/-- The numeral of leading digits of which some stand after the point. -/
def brokenNumeral
    {digits : List Char}
    (leading : LeadingDigits digits)
    (count : Nat)
    (more : count + 1 < digits.length) :
    Numeral where
  whole := digits.take (count + 1)
  fraction := some (digits.drop (count + 1))
  exponent := none
  wholeIsDigits := (leading.take count).areDigits
  fractionIsDigits := by
    rintro fraction ⟨rfl⟩
    refine ⟨?_, fun character member => ?_⟩
    · simp [more]
    · exact leading.areDigits.all character (List.mem_of_mem_drop member)
  exponentIsDigits := nofun
  wholeIsPlain := .inr (leading.take count).first

/-- A numeral below one is written in positional notation. -/
theorem positional_eq_numeralBelowOne
    {digits : List Char}
    (leading : LeadingDigits digits)
    {exponent : Int}
    (belowOne : exponent < 0) :
    positional digits exponent =
      (numeralBelowOne leading exponent).characters := by
  simp [positional, if_pos belowOne, Numeral.characters,
    Numeral.fractionCharacters, Numeral.exponentCharacters, numeralBelowOne]

theorem number_numeralBelowOne
    {digits : List Char}
    (leading : LeadingDigits digits)
    {exponent : Int}
    (belowOne : exponent < 0)
    (negative : Bool) :
    (numeralBelowOne leading exponent).number negative =
      toBinary64 negative (digitsValue digits)
        (exponent + 1 - digits.length) := by
  unfold Numeral.number numeralBelowOne Numeral.fractionDigits
    Numeral.exponentValue
  congr 1
  · simp only [Option.getD_some, digitsValue_append, digitsValue_zeros,
      show digitsValue ['0'] = 0 from rfl, Nat.zero_mul, Nat.zero_add]
  · simp only [Option.getD_some, List.length_append, List.length_replicate]
    omega

/-- A numeral without digits after the point is written in positional notation. -/
theorem positional_eq_wholeNumeral
    {digits : List Char}
    (leading : LeadingDigits digits)
    {count : Nat}
    (whole : digits.length ≤ count + 1) :
    positional digits count =
      (wholeNumeral leading (count + 1 - digits.length)).characters := by
  simp [positional, Numeral.characters, Numeral.fractionCharacters,
    Numeral.exponentCharacters, wholeNumeral, List.take_of_length_le whole,
    List.drop_eq_nil_of_le whole]

theorem number_wholeNumeral
    {digits : List Char}
    (leading : LeadingDigits digits)
    {count : Nat}
    (whole : digits.length ≤ count + 1)
    (negative : Bool) :
    (wholeNumeral leading (count + 1 - digits.length)).number negative =
      toBinary64 negative (digitsValue digits) (count + 1 - digits.length) := by
  rw [← toBinary64_mul_pow negative (digitsValue digits)
    (count + 1 - digits.length + 1)]
  unfold Numeral.number wholeNumeral Numeral.fractionDigits
    Numeral.exponentValue
  congr 1
  · simp only [Option.getD_some, digitsValue_append, digitsValue_zeros,
      show digitsValue ['0'] = 0 from rfl, List.length_replicate,
      List.length_singleton, Nat.add_zero, Nat.pow_succ, Nat.pow_zero,
      Nat.one_mul, Nat.mul_assoc]
  · simp only [Option.getD_some, List.length_singleton]
    omega

/-- A numeral with digits on both sides of the point is written in positional notation. -/
theorem positional_eq_brokenNumeral
    {digits : List Char}
    (leading : LeadingDigits digits)
    {count : Nat}
    (more : count + 1 < digits.length) :
    positional digits count =
      (brokenNumeral leading count more).characters := by
  have notAll : (digits.drop (count + 1)).isEmpty = false := by
    simp [more]
  simp [positional, Numeral.characters, Numeral.fractionCharacters,
    Numeral.exponentCharacters, brokenNumeral, notAll,
    Nat.min_eq_left more.le]

theorem number_brokenNumeral
    {digits : List Char}
    (leading : LeadingDigits digits)
    {count : Nat}
    (more : count + 1 < digits.length)
    (negative : Bool) :
    (brokenNumeral leading count more).number negative =
      toBinary64 negative (digitsValue digits) (count + 1 - digits.length) := by
  unfold Numeral.number brokenNumeral Numeral.fractionDigits
    Numeral.exponentValue
  congr 1
  · simp only [Option.getD_some, List.take_append_drop]
  · simp only [Option.getD_some, List.length_drop]
    omega

/-- Positional notation is a numeral with a point, of the value of the digits. -/
theorem exists_positional_numeral
    {digits : List Char}
    (leading : LeadingDigits digits)
    (exponent : Int) :
    ∃ numeral : Numeral,
      positional digits exponent = numeral.characters ∧
        numeral.fraction.isSome ∧
        ∀ negative,
          numeral.number negative =
            toBinary64 negative (digitsValue digits)
              (exponent + 1 - digits.length) := by
  by_cases belowOne : exponent < 0
  · exact
      ⟨numeralBelowOne leading exponent,
        positional_eq_numeralBelowOne leading belowOne, rfl,
        number_numeralBelowOne leading belowOne⟩
  · obtain ⟨count, rfl⟩ := Int.eq_ofNat_of_zero_le (not_lt.mp belowOne)
    by_cases more : count + 1 < digits.length
    · exact
        ⟨brokenNumeral leading count more,
          positional_eq_brokenNumeral leading more, rfl,
          number_brokenNumeral leading more⟩
    · have whole : digits.length ≤ count + 1 := not_lt.mp more
      exact
        ⟨wholeNumeral leading (count + 1 - digits.length),
          positional_eq_wholeNumeral leading whole, rfl,
          number_wholeNumeral leading whole⟩

/-! ## Scientific notation -/

/-- The numeral of leading digits in scientific notation. -/
def scientificNumeral
    (format : FloatFormat)
    {digits : List Char}
    (leading : LeadingDigits digits)
    (exponent : Int) :
    Numeral where
  whole := digits.take 1
  fraction := if digits.length ≤ 1 then none else some (digits.drop 1)
  exponent :=
    some
      (exponent < 0,
        padFront format.exponentDigits (Decimal.digits exponent.natAbs))
  wholeIsDigits := (leading.take 0).areDigits
  fractionIsDigits := by
    intro fraction chosen
    split at chosen
    · cases chosen
    · next more =>
        cases chosen
        refine ⟨?_, fun character member => ?_⟩
        · exact fun none => more (List.drop_eq_nil_iff.mp none)
        · exact leading.areDigits.all character (List.mem_of_mem_drop member)
  exponentIsDigits := by
    rintro part ⟨rfl⟩
    exact isDigits_padFront _ (isDigits_digits _)
  wholeIsPlain := .inr (leading.take 0).first

/-- A numeral with an exponent is written in scientific notation. -/
theorem scientific_eq_scientificNumeral
    (format : FloatFormat)
    {digits : List Char}
    (leading : LeadingDigits digits)
    (exponent : Int) :
    scientific format digits exponent =
      (scientificNumeral format leading exponent).characters := by
  unfold scientific Numeral.characters Numeral.fractionCharacters
    Numeral.exponentCharacters scientificNumeral
  by_cases single : digits.length ≤ 1
  · simp [single]
  · simp [single]

theorem number_scientificNumeral
    (format : FloatFormat)
    {digits : List Char}
    (leading : LeadingDigits digits)
    (exponent : Int)
    (negative : Bool) :
    (scientificNumeral format leading exponent).number negative =
      toBinary64 negative (digitsValue digits)
        (exponent + 1 - digits.length) := by
  have nonempty := List.length_pos_iff.mpr leading.areDigits.nonempty
  have exponentValue :
      (scientificNumeral format leading exponent).exponentValue =
        exponent := by
    unfold Numeral.exponentValue scientificNumeral
    dsimp only
    by_cases below : exponent < 0
    · rw [decide_eq_true below]
      simp only [digitsValue_padFront, digitsValue_digits]
      omega
    · rw [decide_eq_false below]
      simp only [digitsValue_padFront, digitsValue_digits]
      omega
  have fractionDigits :
      (scientificNumeral format leading exponent).fractionDigits =
        digits.drop 1 := by
    unfold Numeral.fractionDigits scientificNumeral
    by_cases single : digits.length ≤ 1
    · simp [single, List.drop_eq_nil_of_le single]
    · simp [single]
  unfold Numeral.number
  rw [exponentValue, fractionDigits]
  congr 1
  · exact congrArg digitsValue (List.take_append_drop 1 digits)
  · rw [List.length_drop]
    omega

/-! ## Written numbers -/

/--
A positive number is written as the characters of a numeral with a point or an exponent that tells
the number.
-/
theorem exists_numeral
    (format : FloatFormat)
    {significand : Nat}
    {exponent : Int}
    (canonical : CanonicalPair significand exponent)
    (positive : 0 < significand) :
    ∃ numeral : Numeral,
      writtenPositive format significand exponent = numeral.characters ∧
        (numeral.fraction.isSome ∨ numeral.exponent.isSome) ∧
        ∀ negative,
          numeral.number negative =
            .finite negative significand exponent canonical := by
  have reads := toBinary64_shortest canonical positive
  rcases found : shortest significand exponent with ⟨digits, power⟩
  rw [found] at reads
  have digitsPositive : 0 < digits := by
    rcases Nat.eq_zero_or_pos digits with rfl | digitsPositive
    · change Binary64.zero false = _ at reads
      injection reads with _ same
      omega
    · exact digitsPositive
  obtain ⟨leading, value⟩ := scientificDigits_spec power digitsPositive
  rcases written : scientificDigits digits power with ⟨kept, first⟩
  rw [written] at leading value
  unfold writtenPositive
  rw [found]
  dsimp only
  rw [written]
  dsimp only
  split
  · obtain ⟨numeral, characters, point, number⟩ :=
      exists_positional_numeral leading first
    refine ⟨numeral, characters, .inl point, fun negative => ?_⟩
    rw [number, value]
    exact toBinary64_of_unsigned reads negative
  · refine
      ⟨scientificNumeral format leading first,
        scientific_eq_scientificNumeral format leading first, .inr rfl,
        fun negative => ?_⟩
    rw [number_scientificNumeral, value]
    exact toBinary64_of_unsigned reads negative

end Binary64

end Tabular
