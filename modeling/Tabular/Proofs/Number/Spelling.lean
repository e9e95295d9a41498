import Mathlib.Data.List.TakeWhile
import Tabular.Number.Decimal

namespace Tabular.Decimal

/-!
# The spelling of numerals

Numerals of finite numbers are spelled with digits, signs, points and the letter of the exponent.
The case of letters does not count, neither in that letter nor in the words for the numbers that
are not finite.
-/

/-! ## Case of characters -/

variable {character mark : Char} {characters : List Char}

theorem isUpper_iff :
    character.isUpper = true ↔ 65 ≤ character.toNat ∧ character.toNat ≤ 90 :=
  decide_eq_true_iff.trans (and_congr UInt32.le_iff_toNat_le UInt32.le_iff_toNat_le)

theorem toNat_toLower
    (character : Char) :
    character.toLower.toNat =
      if character.isUpper then character.toNat + 32 else character.toNat := by
  cases isUpper : character.isUpper with
  | true =>
      have small := (isUpper_iff.mp isUpper).2
      have isMoved : character.toLower.toNat = (character.val + 32).toNat :=
        congrArg Char.toNat (dif_pos (of_decide_eq_true isUpper))
      rw [isMoved, if_pos rfl, UInt32.toNat_add]
      exact Nat.mod_eq_of_lt (Nat.lt_of_le_of_lt (Nat.add_le_add_right small 32) (by decide))
  | false =>
      rw [if_neg Bool.false_ne_true]
      exact congrArg Char.toNat (dif_neg (of_decide_eq_false isUpper))

/-- A mark that comes before the capital letters is the lower-case form of itself only. -/
theorem toLower_eq_iff
    (notLetter : mark.toNat < 65) :
    character.toLower = mark ↔ character = mark := by
  rw [← Char.toNat_inj, ← Char.toNat_inj, toNat_toLower]
  split
  · next isUpper =>
      have := isUpper_iff.mp isUpper
      omega
  · rfl

theorem isDigit_toLower
    (character : Char) :
    character.toLower.isDigit = character.isDigit := by
  rw [Bool.eq_iff_iff, Char.isDigit_iff_toNat, Char.isDigit_iff_toNat, toNat_toLower]
  split
  · next isUpper =>
      have := isUpper_iff.mp isUpper
      simp only [Char.reduceToNat]
      omega
  · rfl

theorem toLower_of_isDigit
    (isDigit : character.isDigit = true) :
    character.toLower = character := by
  have small := (Char.isDigit_iff_toNat.mp isDigit).2
  exact (toLower_eq_iff (Nat.lt_of_le_of_lt small (by decide))).mpr rfl

theorem map_toLower_of_areDigits
    (areDigits : ∀ character ∈ characters, character.isDigit = true) :
    characters.map Char.toLower = characters := by
  have sameEach : characters.map Char.toLower = characters.map id :=
    List.map_congr_left fun character member => toLower_of_isDigit (areDigits character member)
  rw [sameEach, List.map_id]

theorem isExponentMark_toLower :
    character.toLower = 'e' ∨ character.toLower = 'E' ↔ character = 'e' ∨ character = 'E' := by
  simp only [← Char.toNat_inj, toNat_toLower, Char.reduceToNat]
  split
  · next isUpper =>
      have := isUpper_iff.mp isUpper
      omega
  · rfl

theorem toLower_toLower
    (character : Char) :
    character.toLower.toLower = character.toLower := by
  have notUpper : ¬character.toLower.isUpper = true := by
    rw [isUpper_iff, toNat_toLower]
    split
    · next isUpper =>
        have := isUpper_iff.mp isUpper
        omega
    · next other =>
        exact mt isUpper_iff.mpr other
  rw [← Char.toNat_inj, toNat_toLower character.toLower, if_neg notUpper]

/-! ## Numerals in lower case -/

/-- The digits after a point at the front, and what follows them. -/
def spanFraction (characters : List Char) : List Char × List Char :=
  match characters with
  | '.' :: rest => spanDigits rest
  | rest => ([], rest)

theorem readUnsigned?_eq
    (negative : Bool)
    (characters : List Char) :
    readUnsigned? negative characters =
      let (whole, rest) := spanDigits characters
      let (fraction, rest) := spanFraction rest
      if whole.isEmpty && fraction.isEmpty then none
      else
        (readExponent? rest).map fun exponent =>
          toBinary64 negative (digitsValue (whole ++ fraction)) (exponent - fraction.length) :=
  rfl

theorem takeSign_cons
    (character : Char)
    (rest : List Char) :
    takeSign (character :: rest) =
      if character = '-' then (true, rest)
      else if character = '+' then (false, rest)
      else (false, character :: rest) := by
  unfold takeSign
  split <;> simp_all

theorem spanFraction_cons
    (character : Char)
    (rest : List Char) :
    spanFraction (character :: rest) =
      if character = '.' then spanDigits rest else ([], character :: rest) := by
  unfold spanFraction
  split <;> simp_all

theorem takeSign_map_toLower
    (characters : List Char) :
    takeSign (characters.map Char.toLower) =
      ((takeSign characters).1, (takeSign characters).2.map Char.toLower) := by
  cases characters with
  | nil =>
      rfl
  | cons character rest =>
      rw [List.map_cons, takeSign_cons, takeSign_cons]
      simp only [toLower_eq_iff (show '-'.toNat < 65 by decide),
        toLower_eq_iff (show '+'.toNat < 65 by decide)]
      split
      · rfl
      · split <;> rfl

theorem spanDigits_map_toLower
    (characters : List Char) :
    spanDigits (characters.map Char.toLower) =
      ((spanDigits characters).1, (spanDigits characters).2.map Char.toLower) := by
  have sameTest : Char.isDigit ∘ Char.toLower = Char.isDigit := funext isDigit_toLower
  rw [spanDigits, List.takeWhile_map, List.dropWhile_map, sameTest, spanDigits]
  rw [map_toLower_of_areDigits fun _ => List.mem_takeWhile_imp]

theorem spanFraction_map_toLower
    (characters : List Char) :
    spanFraction (characters.map Char.toLower) =
      ((spanFraction characters).1, (spanFraction characters).2.map Char.toLower) := by
  cases characters with
  | nil =>
      rfl
  | cons character rest =>
      rw [List.map_cons, spanFraction_cons, spanFraction_cons]
      simp only [toLower_eq_iff (show '.'.toNat < 65 by decide)]
      split
      · exact spanDigits_map_toLower rest
      · rfl

theorem readExponent?_map_toLower
    (characters : List Char) :
    readExponent? (characters.map Char.toLower) = readExponent? characters := by
  cases characters with
  | nil =>
      rfl
  | cons mark rest =>
      rw [List.map_cons, readExponent?, readExponent?, takeSign_map_toLower]
      simp only [isExponentMark_toLower]
      split
      · generalize takeSign rest = parts
        obtain ⟨negative, digits⟩ := parts
        have sameTest : Char.isDigit ∘ Char.toLower = Char.isDigit := funext isDigit_toLower
        simp only [List.isEmpty_map, List.all_map, sameTest]
        split
        · rfl
        · next isNumber =>
            have areDigits : digits ≠ [] ∧ ∀ digit ∈ digits, digit.isDigit = true := by
              simpa using isNumber
            rw [map_toLower_of_areDigits areDigits.2]
      · rfl

theorem readUnsigned?_map_toLower
    (negative : Bool)
    (characters : List Char) :
    readUnsigned? negative (characters.map Char.toLower) = readUnsigned? negative characters := by
  simp only [readUnsigned?_eq, spanDigits_map_toLower, spanFraction_map_toLower,
    readExponent?_map_toLower]

/-- Numerals are read in any case of letters. -/
theorem read?_map_toLower
    (characters : List Char) :
    read? (characters.map Char.toLower) = read? characters := by
  have sameWord : Char.toLower ∘ Char.toLower = Char.toLower := funext toLower_toLower
  simp only [read?, takeSign_map_toLower, List.map_map, sameWord, readUnsigned?_map_toLower]

/-! ## The characters of numerals -/

/-- A character that numerals of finite numbers are spelled with. -/
def isNumeralCharacter (character : Char) : Bool :=
  character.isDigit || character == '+' || character == '-' || character == '.' ||
    character == 'e' || character == 'E'

theorem isNumeralCharacter_of_isDigit
    (isDigit : character.isDigit = true) :
    isNumeralCharacter character = true := by
  simp [isNumeralCharacter, isDigit]

/-- A sign is no more than a character at the front. -/
theorem takeSign_spelled
    (spelled : ∀ character ∈ (takeSign characters).2, isNumeralCharacter character = true) :
    ∀ character ∈ characters, isNumeralCharacter character = true := by
  cases characters with
  | nil =>
      exact spelled
  | cons character rest =>
      rw [takeSign_cons] at spelled
      split at spelled
      · next isMinus =>
          exact List.forall_mem_cons.mpr ⟨isMinus ▸ rfl, spelled⟩
      · split at spelled
        · next isPlus =>
            exact List.forall_mem_cons.mpr ⟨isPlus ▸ rfl, spelled⟩
        · exact spelled

theorem spanDigits_spelled
    (spelled : ∀ character ∈ (spanDigits characters).2, isNumeralCharacter character = true) :
    ∀ character ∈ characters, isNumeralCharacter character = true := by
  rw [← List.takeWhile_append_dropWhile (p := Char.isDigit) (l := characters),
    List.forall_mem_append]
  exact ⟨fun _ member => isNumeralCharacter_of_isDigit (List.mem_takeWhile_imp member), spelled⟩

theorem spanFraction_spelled
    (spelled : ∀ character ∈ (spanFraction characters).2, isNumeralCharacter character = true) :
    ∀ character ∈ characters, isNumeralCharacter character = true := by
  cases characters with
  | nil =>
      exact spelled
  | cons character rest =>
      rw [spanFraction_cons] at spelled
      split at spelled
      · next isPoint =>
          exact List.forall_mem_cons.mpr ⟨isPoint ▸ rfl, spanDigits_spelled spelled⟩
      · exact spelled

theorem readExponent?_spelled
    {exponent : Int}
    (isRead : readExponent? characters = some exponent) :
    ∀ character ∈ characters, isNumeralCharacter character = true := by
  cases characters with
  | nil =>
      exact nofun
  | cons mark rest =>
      rw [readExponent?] at isRead
      split at isRead
      · next isMark =>
          have markIsSpelled : isNumeralCharacter mark = true := by
            rcases isMark with rfl | rfl <;> rfl
          have areDigits : ∀ digit ∈ (takeSign rest).2, digit.isDigit = true := by
            simp only [Option.ite_none_left_eq_some] at isRead
            simpa using (not_or.mp (mt Bool.or_eq_true_iff.mpr isRead.1)).2
          exact
            List.forall_mem_cons.mpr
              ⟨markIsSpelled,
                takeSign_spelled fun digit member =>
                  isNumeralCharacter_of_isDigit (areDigits digit member)⟩
      · cases isRead

theorem readUnsigned?_spelled
    {negative : Bool}
    {number : Binary64}
    (isRead : readUnsigned? negative characters = some number) :
    ∀ character ∈ characters, isNumeralCharacter character = true := by
  rw [readUnsigned?_eq] at isRead
  simp only at isRead
  split at isRead
  · cases isRead
  · obtain ⟨exponent, exponentIsRead, -⟩ := Option.map_eq_some_iff.mp isRead
    exact spanDigits_spelled (spanFraction_spelled (readExponent?_spelled exponentIsRead))

/-- What is read as a finite number is spelled as a numeral. -/
theorem read?_spelled
    {number : Binary64}
    (isRead : read? characters = some number)
    (isFinite : number.isFinite = true) :
    ∀ character ∈ characters, isNumeralCharacter character = true := by
  rw [read?] at isRead
  simp only at isRead
  split at isRead
  · obtain rfl := Option.some.inj isRead
    cases isFinite
  · split at isRead
    · obtain rfl := Option.some.inj isRead
      cases isFinite
    · exact takeSign_spelled (readUnsigned?_spelled isRead)

end Tabular.Decimal
