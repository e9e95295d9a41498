import Tabular.Proofs.Text.CaseTables
import Tabular.Proofs.Text.LowerCase

namespace Tabular.Text

/-!
# Changing the case of texts again

A text in lower case stays in lower case, and one in upper case stays in upper case: the forms of
characters do, and the sigma rule has no capital sigma left to look at. What is left of a text by a
second change is told by its characters alone.
-/

variable {character : Char} {characters rest : List Char} {afterCased : Bool}

theorem not_isLower_sigma :
    ¬IsLower 'Σ' := by
  decide

/-- Both forms of a sigma are their own lower-case forms. -/
theorem isLower_of_mem_lowerBetween
    {form : Char}
    (member : form ∈ lowerBetween afterCased character rest) :
    IsLower form := by
  by_cases isSigma : character = 'Σ'
  · subst isSigma
    have bothStay : IsLower 'ς' ∧ IsLower 'σ' := by decide
    rw [lowerBetween_sigma] at member
    split at member
    · exact List.mem_singleton.mp member ▸ bothStay.1
    · exact List.mem_singleton.mp member ▸ bothStay.2
  · rw [lowerBetween_of_ne isSigma] at member
    exact isLower_of_mem_lowerCharacter member

theorem lowerFrom_cons
    (afterCased : Bool)
    (character : Char)
    (rest : List Char) :
    lowerFrom afterCased (character :: rest) =
      lowerBetween afterCased character rest ++
        lowerFrom (isCasedAfter afterCased character) rest :=
  rfl

theorem isLower_of_mem_lowerFrom
    {form : Char}
    (member : form ∈ lowerFrom afterCased characters) :
    IsLower form := by
  induction characters generalizing afterCased with
  | nil =>
      cases member
  | cons character rest inductionHypothesis =>
      rw [lowerFrom_cons, List.mem_append] at member
      rcases member with isForm | isLater
      · exact isLower_of_mem_lowerBetween isForm
      · exact inductionHypothesis isLater

/-- A character keeps its place in lower case exactly when it is its own lower-case form. -/
theorem lowerBetween_eq_singleton_iff :
    lowerBetween afterCased character rest = [character] ↔ IsLower character := by
  constructor
  · intro stays
    exact isLower_of_mem_lowerBetween (stays ▸ List.mem_singleton.mpr rfl)
  · intro isLower
    rw [lowerBetween_of_ne fun isSigma => not_isLower_sigma (isSigma ▸ isLower), isLower]

theorem lowerBetween_of_isLower
    (isLower : IsLower character) :
    lowerBetween afterCased character rest = [character] :=
  lowerBetween_eq_singleton_iff.mpr isLower

/-- Only a blank has a blank in its lower-case form. -/
theorem eq_of_blank_mem_lowerBetween
    {form : Char}
    (member : form ∈ lowerBetween afterCased character rest)
    (blank : isBlankCharacter form = true) :
    form = character := by
  by_cases isSigma : character = 'Σ'
  · subst isSigma
    have neitherIsBlank : isBlankCharacter 'ς' = false ∧ isBlankCharacter 'σ' = false := by decide
    rw [lowerBetween_sigma] at member
    split at member
    · rw [List.mem_singleton.mp member, neitherIsBlank.1] at blank
      cases blank
    · rw [List.mem_singleton.mp member, neitherIsBlank.2] at blank
      cases blank
  · rw [lowerBetween_of_ne isSigma] at member
    exact eq_of_blank_mem_lowerCharacter member blank

/-- A character other than the capital with a dot has one character in lower case. -/
theorem exists_lowerBetween_eq
    (other : character ≠ 'İ')
    (afterCased : Bool)
    (rest : List Char) :
    ∃ form, lowerBetween afterCased character rest = [form] := by
  apply List.length_eq_one_iff.mp
  rw [length_lowerBetween, lowerCharacter_of_ne other]
  rfl

/-- The capital of a small letter goes into lower case as a letter with that capital. -/
theorem IsCapital.exists_lowerBetween_eq
    (isCapital : IsCapital character)
    (afterCased : Bool)
    (rest : List Char) :
    ∃ small, lowerBetween afterCased character rest = [small] ∧
      upperCharacter small = [character] := by
  by_cases isSigma : character = 'Σ'
  · subst isSigma
    have bothRise : upperCharacter 'ς' = ['Σ'] ∧ upperCharacter 'σ' = ['Σ'] := by decide
    rw [lowerBetween_sigma]
    split
    · exact ⟨'ς', rfl, bothRise.1⟩
    · exact ⟨'σ', rfl, bothRise.2⟩
  · rw [lowerBetween_of_ne isSigma]
    exact isCapital

theorem lowerFrom_of_isLower
    (areLower : ∀ character ∈ characters, IsLower character) :
    lowerFrom afterCased characters = characters := by
  induction characters generalizing afterCased with
  | nil =>
      rfl
  | cons character rest inductionHypothesis =>
      obtain ⟨isLower, restAreLower⟩ := List.forall_mem_cons.mp areLower
      rw [lowerFrom_cons, lowerBetween_of_isLower isLower, inductionHypothesis restAreLower,
        List.singleton_append]

/-- A text in lower case is in lower case. -/
theorem lower_lower
    (text : String) :
    lower (lower text) = lower text := by
  rw [lower, lower, String.toList_ofList,
    lowerFrom_of_isLower fun _ => isLower_of_mem_lowerFrom]

/-- A text in upper case is in upper case. -/
theorem upper_upper
    (text : String) :
    upper (upper text) = upper text := by
  rw [upper, upper, String.toList_ofList, List.flatMap_assoc]
  congr 1
  apply List.flatMap_congr
  intro character _
  have stays : ∀ form ∈ upperCharacter character, upperCharacter form = [form] :=
    fun form => isUpper_of_mem_upperCharacter
  rw [List.flatMap_congr stays, List.flatMap_singleton']

end Tabular.Text
