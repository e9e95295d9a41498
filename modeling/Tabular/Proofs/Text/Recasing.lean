import Tabular.Cell.Number
import Tabular.Proofs.Number.Spelling
import Tabular.Proofs.Text.CaseMapping

namespace Tabular.Text

/-!
# Numerals under changes of case

A change of case leaves blanks alone, keeps the letters of numerals apart from their case, and makes
neither blanks nor numerals of other characters. So it keeps the ends of a text where they are, and
the text between its blanks is read as the same number.
-/

open CaseRun Decimal

variable {character form : Char} {characters image rest : List Char} {afterCased : Bool}

/-! ## Numerals and the tables -/

/-- The code points of the characters of numerals. -/
def numeralRuns : List CaseRun :=
  [single '+'.toNat, ⟨'-'.toNat, '.'.toNat, 1, 0⟩, ⟨'0'.toNat, '9'.toNat, 1, 0⟩, single 'E'.toNat,
    single 'e'.toNat]

theorem isNumeralCharacter_iff :
    isNumeralCharacter character = true ↔ ∃ run ∈ numeralRuns, run.Moves character.toNat := by
  simp only [isNumeralCharacter, numeralRuns, single, Moves, List.mem_cons, List.not_mem_nil,
    or_false, exists_eq_or_imp, exists_eq_left, Nat.mod_one, and_true, Bool.or_eq_true,
    beq_iff_eq, ← Char.toNat_inj, Char.isDigit_iff_toNat, Char.reduceToNat]
  omega

theorem isNumeralCharacter_toLower
    (character : Char) :
    isNumeralCharacter character.toLower = isNumeralCharacter character := by
  rw [Bool.eq_iff_iff]
  simp only [isNumeralCharacter, isDigit_toLower, Bool.or_eq_true, beq_iff_eq, or_assoc,
    toLower_eq_iff (show '+'.toNat < 65 by decide),
    toLower_eq_iff (show '-'.toNat < 65 by decide),
    toLower_eq_iff (show '.'.toNat < 65 by decide), isExponentMark_toLower]

theorem isAscii_of_isNumeralCharacter
    (numeral : isNumeralCharacter character = true) :
    character.toNat < 128 := by
  obtain ⟨run, member, -, notAfter, -⟩ := isNumeralCharacter_iff.mp numeral
  have small : ∀ run ∈ numeralRuns, run.last < 128 := by decide
  exact notAfter.trans_lt (small run member)

/-- The runs that do not move ASCII letters. -/
def beyondAscii (runs : List CaseRun) : List CaseRun :=
  runs.filter fun run => 128 ≤ run.last

theorem mem_beyondAscii
    {run : CaseRun}
    {runs : List CaseRun}
    (member : run ∈ runs)
    (moves : run.Moves character.toNat)
    (beyond : ¬character.toNat < 128) :
    run ∈ beyondAscii runs :=
  List.mem_filter.mpr ⟨member, decide_eq_true ((not_lt.mp beyond).trans moves.2.1)⟩

theorem forms_areApart_numeralRuns :
    AreApart
      ((beyondAscii lowerRuns).map images ++
        ((beyondAscii upperRuns).map images ++ expansionCharacters))
      numeralRuns := by
  decide +kernel

theorem not_numeral_of_isForm
    {run : CaseRun}
    (isForm :
      run ∈ (beyondAscii lowerRuns).map images ++
        ((beyondAscii upperRuns).map images ++ expansionCharacters))
    (moves : run.Moves form.toNat) :
    isNumeralCharacter form = false := by
  rw [← Bool.not_eq_true, isNumeralCharacter_iff]
  rintro ⟨numeralRun, isNumeral, movesNumeral⟩
  exact forms_areApart_numeralRuns.not_moves isForm moves numeralRun isNumeral movesNumeral

theorem lowerCharacter_of_ascii
    (ascii : character.toNat < 128) :
    lowerCharacter character = [character.toLower] := by
  have other : character ≠ 'İ' := by
    rintro rfl
    exact absurd ascii (by decide)
  rw [lowerCharacter_of_ne other, toLower_eq_moved ascii]

theorem upperCharacter_of_ascii
    (ascii : character.toNat < 128) :
    upperCharacter character = [character.toUpper] := by
  rw [upperCharacter, if_pos ascii]

theorem toLower_toUpper
    (ascii : character.toNat < 128) :
    character.toUpper.toLower = character.toLower :=
  of_ascii (fun character => character.toUpper.toLower = character.toLower) (by decide)
    ascii

/-- Only a character of numerals has one in its lower-case form. -/
theorem numeral_of_mem_lowerCharacter
    (member : form ∈ lowerCharacter character)
    (numeral : isNumeralCharacter form = true) :
    isNumeralCharacter character = true := by
  by_cases ascii : character.toNat < 128
  · rw [lowerCharacter_of_ascii ascii, List.mem_singleton] at member
    rwa [member, isNumeralCharacter_toLower] at numeral
  · rcases lowerCharacter_origin member with ⟨rfl, -⟩ | rfl | ⟨run, isRun, moves, movesImage⟩
    · exact numeral
    · rw [lowerCharacter_dotted] at member
      obtain rfl | rfl := List.mem_pair.mp member
      · exact absurd numeral (by decide)
      · exact absurd numeral (by decide)
    · have isForm : run.images ∈ (beyondAscii lowerRuns).map images :=
        List.mem_map_of_mem (mem_beyondAscii isRun moves ascii)
      rw [not_numeral_of_isForm (List.mem_append_left _ isForm) movesImage] at numeral
      cases numeral

/-- Only a character of numerals has one in its upper-case form. -/
theorem numeral_of_mem_upperCharacter
    (member : form ∈ upperCharacter character)
    (numeral : isNumeralCharacter form = true) :
    isNumeralCharacter character = true := by
  by_cases ascii : character.toNat < 128
  · rw [upperCharacter_of_ascii ascii, List.mem_singleton] at member
    rwa [member, ← isNumeralCharacter_toLower, toLower_toUpper ascii,
      isNumeralCharacter_toLower] at numeral
  · have notRaised
        {run : CaseRun}
        (raised : run ∈ (beyondAscii upperRuns).map images ++ expansionCharacters) :
        ¬run.Moves form.toNat := by
      intro moves
      rw [not_numeral_of_isForm (List.mem_append_right _ raised) moves] at numeral
      cases numeral
    rcases upperCharacter_origin member with
      ⟨rfl, -⟩ | ⟨-, isPart⟩ | ⟨run, isRun, moves, movesImage⟩
    · exact numeral
    · exact absurd moves_single (notRaised (List.mem_append_right _ isPart))
    · have isForm : run.images ∈ (beyondAscii upperRuns).map images :=
        List.mem_map_of_mem (mem_beyondAscii isRun moves ascii)
      exact absurd movesImage (notRaised (List.mem_append_left _ isForm))

/-! ## Characters in another case -/

/-- Neither a blank nor a character of numerals. -/
def IsOther (character : Char) : Prop :=
  isBlankCharacter character = false ∧ isNumeralCharacter character = false

instance (character : Char) : Decidable (IsOther character) :=
  inferInstanceAs (Decidable (_ ∧ _))

/--
What a change of case may make of a character as far as numerals go: blanks stay, characters of
numerals stay up to case, and other characters become others.
-/
inductive Recases : Char → List Char → Prop where
  | blank {character : Char}
      (blank : isBlankCharacter character = true) :
      Recases character [character]
  | numeral {character form : Char}
      (numeral : isNumeralCharacter character = true)
      (sameLetter : form.toLower = character.toLower) :
      Recases character [form]
  | other {character : Char} {image : List Char}
      (isOther : IsOther character)
      (nonempty : image ≠ [])
      (areOther : ∀ form ∈ image, IsOther form) :
      Recases character image

theorem kind_cases
    (character : Char) :
    isBlankCharacter character = true ∨ isNumeralCharacter character = true ∨
      IsOther character := by
  unfold IsOther
  cases isBlankCharacter character <;> cases isNumeralCharacter character <;> simp

theorem Recases.refl
    (character : Char) :
    Recases character [character] := by
  rcases kind_cases character with blank | numeral | isOther
  · exact .blank blank
  · exact .numeral numeral rfl
  · exact .other isOther (List.cons_ne_nil _ _) (List.forall_mem_singleton.mpr isOther)

/-- A form that has blanks and characters of numerals only where its character is one. -/
theorem Recases.of_other
    (isOther : IsOther character)
    (nonempty : image ≠ [])
    (blanksStay : ∀ form ∈ image, isBlankCharacter form = true → form = character)
    (numeralsStay :
      ∀ form ∈ image, isNumeralCharacter form = true → isNumeralCharacter character = true) :
    Recases character image := by
  refine .other isOther nonempty fun form member => ⟨?_, ?_⟩
  · rw [← Bool.not_eq_true]
    intro blank
    rw [← blanksStay form member blank, IsOther, blank] at isOther
    cases isOther.1
  · rw [← Bool.not_eq_true]
    intro numeral
    rw [IsOther, numeralsStay form member numeral] at isOther
    cases isOther.2

theorem recases_lowerBetween
    (afterCased : Bool)
    (character : Char)
    (rest : List Char) :
    Recases character (lowerBetween afterCased character rest) := by
  by_cases isSigma : character = 'Σ'
  · subst isSigma
    have areOther : IsOther 'Σ' ∧ IsOther 'ς' ∧ IsOther 'σ' := by decide
    rw [lowerBetween_sigma]
    split
    · exact .other areOther.1 (List.cons_ne_nil _ _) (List.forall_mem_singleton.mpr areOther.2.1)
    · exact .other areOther.1 (List.cons_ne_nil _ _) (List.forall_mem_singleton.mpr areOther.2.2)
  · rw [lowerBetween_of_ne isSigma]
    rcases kind_cases character with blank | numeral | isOther
    · rw [(isLower_and_isUpper_of_blank blank).1]
      exact .blank blank
    · rw [lowerCharacter_of_ascii (isAscii_of_isNumeralCharacter numeral)]
      exact .numeral numeral (toLower_toLower character)
    · exact
        .of_other isOther (lowerCharacter_ne_nil character)
          (fun _ => eq_of_blank_mem_lowerCharacter) fun _ => numeral_of_mem_lowerCharacter

theorem recases_upperCharacter
    (character : Char) :
    Recases character (upperCharacter character) := by
  rcases kind_cases character with blank | numeral | isOther
  · rw [(isLower_and_isUpper_of_blank blank).2]
    exact .blank blank
  · have ascii := isAscii_of_isNumeralCharacter numeral
    rw [upperCharacter_of_ascii ascii]
    exact .numeral numeral (toLower_toUpper ascii)
  · exact
      .of_other isOther (upperCharacter_ne_nil character)
        (fun _ => eq_of_blank_mem_upperCharacter) fun _ => numeral_of_mem_upperCharacter

/-! ## Texts in another case -/

/-- The characters one after the other in another case. -/
inductive Recased : List Char → List Char → Prop where
  | nil : Recased [] []
  | cons {character : Char} {image rest others : List Char}
      (first : Recases character image)
      (later : Recased rest others) :
      Recased (character :: rest) (image ++ others)

variable {others : List Char}

theorem Recased.append
    {after afterToo : List Char}
    (front : Recased characters others)
    (back : Recased after afterToo) :
    Recased (characters ++ after) (others ++ afterToo) := by
  induction front with
  | nil =>
      exact back
  | cons first _ inductionHypothesis =>
      rw [List.cons_append, List.append_assoc]
      exact .cons first inductionHypothesis

theorem Recases.reverse
    (recases : Recases character image) :
    Recases character image.reverse := by
  cases recases with
  | blank blank =>
      exact .blank blank
  | numeral numeral sameLetter =>
      exact .numeral numeral sameLetter
  | other isOther nonempty areOther =>
      exact
        .other isOther (mt List.reverse_eq_nil_iff.mp nonempty) fun form member =>
          areOther form (List.mem_reverse.mp member)

theorem Recased.reverse
    (recased : Recased characters others) :
    Recased characters.reverse others.reverse := by
  induction recased with
  | nil =>
      exact .nil
  | cons first _ inductionHypothesis =>
      rw [List.reverse_cons, List.reverse_append]
      have last := Recased.cons first.reverse .nil
      rw [List.append_nil] at last
      exact inductionHypothesis.append last

theorem not_blank_of_numeral
    (numeral : isNumeralCharacter character = true) :
    isBlankCharacter character = false :=
  of_ascii
    (fun character => isNumeralCharacter character = true → isBlankCharacter character = false)
    (by decide) (isAscii_of_isNumeralCharacter numeral) numeral

/-- The blanks at the front stay the same. -/
theorem Recased.trimFront
    (recased : Recased characters others) :
    Recased (trimFront characters) (trimFront others) := by
  induction recased with
  | nil =>
      exact .nil
  | cons first later inductionHypothesis =>
      cases first with
      | blank blank =>
          simpa [Text.trimFront, blank] using inductionHypothesis
      | numeral numeral sameLetter =>
          have formIsNumeral : isNumeralCharacter _ = true :=
            (isNumeralCharacter_toLower _).symm.trans
              ((congrArg isNumeralCharacter sameLetter).trans
                ((isNumeralCharacter_toLower _).trans numeral))
          have kept := Recased.cons (.numeral numeral sameLetter) later
          simpa [Text.trimFront, not_blank_of_numeral numeral,
            not_blank_of_numeral formIsNumeral] using kept
      | other isOther nonempty areOther =>
          obtain ⟨form, further, rfl⟩ := List.exists_cons_of_ne_nil nonempty
          have kept := Recased.cons (.other isOther nonempty areOther) later
          simpa [Text.trimFront, isOther.1, (areOther form List.mem_cons_self).1] using kept

theorem Recased.trimBoth
    (recased : Recased characters others) :
    Recased (trimBoth characters) (trimBoth others) :=
  recased.trimFront.reverse.trimFront.reverse

theorem not_numeral_of_blank
    (blank : isBlankCharacter character = true) :
    isNumeralCharacter character = false := by
  rw [← Bool.not_eq_true]
  intro numeral
  rw [not_blank_of_numeral numeral] at blank
  cases blank

/-- Characters that are not all characters of numerals. -/
def HasOther (characters : List Char) : Prop :=
  ∃ character ∈ characters, isNumeralCharacter character = false

/-- Texts in different cases are the same numeral up to case, or no numerals. -/
theorem Recased.spelling
    (recased : Recased characters others) :
    (∀ character ∈ characters, isNumeralCharacter character = true) ∧
        others.map Char.toLower = characters.map Char.toLower ∨
      HasOther characters ∧ HasOther others := by
  have inRest
      (front : List Char)
      {rest : List Char}
      (hasOther : HasOther rest) :
      HasOther (front ++ rest) :=
    hasOther.imp fun _ inside => ⟨List.mem_append_right front inside.1, inside.2⟩
  induction recased with
  | nil =>
      exact .inl ⟨nofun, rfl⟩
  | @cons character image rest others first later inductionHypothesis =>
      cases first with
      | blank blank =>
          have isOther := not_numeral_of_blank blank
          exact
            .inr
              ⟨⟨character, List.mem_cons_self, isOther⟩, ⟨character, List.mem_cons_self, isOther⟩⟩
      | numeral numeral sameLetter =>
          rcases inductionHypothesis with ⟨areNumerals, sameLetters⟩ | ⟨hasOther, hasOtherToo⟩
          · refine .inl ⟨List.forall_mem_cons.mpr ⟨numeral, areNumerals⟩, ?_⟩
            rw [List.singleton_append, List.map_cons, List.map_cons, sameLetter, sameLetters]
          · exact .inr ⟨inRest [character] hasOther, inRest _ hasOtherToo⟩
      | other isOther nonempty areOther =>
          obtain ⟨form, further, rfl⟩ := List.exists_cons_of_ne_nil nonempty
          exact
            .inr
              ⟨⟨character, List.mem_cons_self, isOther.2⟩,
                ⟨form, List.mem_cons_self, (areOther form List.mem_cons_self).2⟩⟩

theorem recased_lowerFrom
    (afterCased : Bool)
    (characters : List Char) :
    Recased characters (lowerFrom afterCased characters) := by
  induction characters generalizing afterCased with
  | nil =>
      exact .nil
  | cons character rest inductionHypothesis =>
      rw [lowerFrom_cons]
      exact .cons (recases_lowerBetween afterCased character rest) (inductionHypothesis _)

theorem recased_upper
    (characters : List Char) :
    Recased characters (characters.flatMap upperCharacter) := by
  induction characters with
  | nil =>
      exact .nil
  | cons character rest inductionHypothesis =>
      rw [List.flatMap_cons]
      exact .cons (recases_upperCharacter character) inductionHypothesis

end Tabular.Text

namespace Tabular.Cell

open Decimal Text

/-! ## The numbers of texts -/

/-- The finite number that the characters between the blanks are read as. -/
def finiteNumber? (characters : List Char) : Option Binary64 :=
  if characters.all isNumeralCharacter then (read? characters).filter Binary64.isFinite else none

/-- Only a text that is spelled as a numeral is read as a finite number. -/
theorem numberOfText?_eq
    (text : String) :
    numberOfText? text = finiteNumber? (trimBoth text.toList) := by
  rw [numberOfText?, finiteNumber?]
  generalize trimBoth text.toList = characters
  cases spelled : characters.all isNumeralCharacter with
  | true =>
      have plain : characters.all fun character => character.toNat < 128 && character != '_' := by
        refine List.all_eq_true.mpr fun character member => ?_
        have numeral := List.all_eq_true.mp spelled character member
        have notUnderscore : character ≠ '_' := by
          rintro rfl
          cases numeral
        simp [isAscii_of_isNumeralCharacter numeral, notUnderscore]
      rw [if_pos plain, if_pos rfl]
  | false =>
      have notFinite : (read? characters).filter Binary64.isFinite = none := by
        rw [Option.filter_eq_none_iff]
        intro number isRead isFinite
        have all := List.all_eq_true.mpr (read?_spelled isRead isFinite)
        rw [spelled] at all
        cases all
      rw [notFinite, ite_self, if_neg Bool.false_ne_true]

theorem finiteNumber?_of_hasOther
    {characters : List Char}
    (hasOther : HasOther characters) :
    finiteNumber? characters = none := by
  obtain ⟨character, member, isOther⟩ := hasOther
  rw [finiteNumber?, if_neg]
  intro all
  rw [List.all_eq_true.mp all character member] at isOther
  cases isOther

/-- Texts in different cases are read as the same number. -/
theorem numberOfText?_of_recased
    {characters others : List Char}
    (recased : Recased characters others) :
    numberOfText? (String.ofList others) = numberOfText? (String.ofList characters) := by
  rw [numberOfText?_eq, numberOfText?_eq, String.toList_ofList, String.toList_ofList]
  rcases recased.trimBoth.spelling with ⟨areNumerals, sameLetters⟩ | ⟨hasOther, hasOtherToo⟩
  · have sameTest : isNumeralCharacter ∘ Char.toLower = isNumeralCharacter :=
      funext isNumeralCharacter_toLower
    have sameAll :
        (trimBoth others).all isNumeralCharacter =
          (trimBoth characters).all isNumeralCharacter := by
      rw [← sameTest, ← List.all_map, ← List.all_map, sameLetters]
    rw [finiteNumber?, finiteNumber?, sameAll, ← read?_map_toLower, sameLetters,
      read?_map_toLower]
  · rw [finiteNumber?_of_hasOther hasOther, finiteNumber?_of_hasOther hasOtherToo]

end Tabular.Cell
