import Tabular.Change.Cleaning
import Tabular.Proofs.Assoc
import Tabular.Proofs.Text.CaseMapping
import Tabular.Proofs.Text.Pieces

namespace Tabular

/-!
# Titles

A title is made in one pass over a text in lower case: the first character of every word goes into
upper case. A second pass finds the capitals again in lower case and raises them again. So it
changes a title only where a capital of several letters has put further capitals into a word.
-/

namespace CleaningOperation

open Text

variable {characters piece : List Char} {others : List (List Char)} {atStart : Bool}

/-! ## One pass -/

/--
The characters with the first one of every word in upper case, where `atStart` says that the first
of them begins a word.
-/
def capitalizeFrom : Bool → List Char → List Char
  | _, [] => []
  | atStart, character :: rest =>
      (if atStart then upperCharacter character else [character]) ++
        capitalizeFrom (character == ' ') rest

theorem joinWords_cons
    (word next : List Char)
    (words : List (List Char)) :
    joinWords (word :: next :: words) = word ++ ' ' :: joinWords (next :: words) :=
  rfl

theorem joinWords_append_cons
    (front word : List Char)
    (words : List (List Char)) :
    joinWords ((front ++ word) :: words) = front ++ joinWords (word :: words) := by
  cases words with
  | nil =>
      rfl
  | cons next words =>
      rw [joinWords_cons, joinWords_cons, List.append_assoc]

theorem upperCharacter_space :
    upperCharacter ' ' = [' '] := by
  decide

/-- The words are capitalized apart from the first one, which need not begin with the characters. -/
theorem capitalizeFrom_eq
    (arePieces : piecesAt ' ' characters = piece :: others) :
    capitalizeFrom atStart characters =
      joinWords ((if atStart then capitalized piece else piece) :: others.map capitalized) := by
  induction characters generalizing atStart piece others with
  | nil =>
      obtain ⟨rfl, rfl⟩ := List.cons.inj arePieces
      cases atStart <;> rfl
  | cons character rest inductionHypothesis =>
      obtain ⟨next, words, areNext⟩ :=
        List.exists_cons_of_ne_nil (isCut_piecesAt ' ' rest).nonempty
      rw [piecesAt, areNext] at arePieces
      rw [capitalizeFrom, inductionHypothesis areNext]
      by_cases isSpace : character = ' '
      · subst isSpace
        rw [if_pos rfl] at arePieces
        obtain ⟨rfl, rfl⟩ := List.cons.inj arePieces
        rw [upperCharacter_space, ite_self, beq_self_eq_true, if_pos rfl]
        cases atStart <;> rfl
      · rw [if_neg isSpace] at arePieces
        obtain ⟨rfl, rfl⟩ := List.cons.inj arePieces
        rw [beq_eq_false_iff_ne.mpr isSpace, if_neg Bool.false_ne_true, ← joinWords_append_cons]
        cases atStart <;> rfl

/-- The title of a text by one pass over its lower-case form. -/
theorem titled_eq
    (text : String) :
    titled text = String.ofList (capitalizeFrom true (lowerFrom false text.toList)) := by
  obtain ⟨piece, others, arePieces⟩ :=
    List.exists_cons_of_ne_nil (isCut_piecesAt ' ' (lower text).toList).nonempty
  have byPieces : capitalizeFrom true (lower text).toList = _ := capitalizeFrom_eq arePieces
  rw [if_pos rfl, ← List.map_cons, ← arePieces] at byPieces
  rw [titled, ← byPieces, lower, String.toList_ofList]

/-! ## A second pass -/

/-- The upper-case form of a character has no further capitals after the first letter. -/
def HasPlainCapital (character : Char) : Prop :=
  ∀ further ∈ (upperCharacter character).tail, IsLower further

instance (character : Char) : Decidable (HasPlainCapital character) :=
  List.decidableBAll IsLower (upperCharacter character).tail

/-- The first characters of words have plain capitals, where the first word may have begun. -/
def ArePlainFrom : Bool → List Char → Prop
  | _, [] => True
  | atStart, character :: rest =>
      (atStart = true → HasPlainCapital character) ∧ ArePlainFrom (character == ' ') rest

theorem capitalizeFrom_space
    (atStart : Bool)
    (rest : List Char) :
    capitalizeFrom atStart (' ' :: rest) = ' ' :: capitalizeFrom true rest := by
  rw [capitalizeFrom, upperCharacter_space, ite_self, beq_self_eq_true, List.singleton_append]

theorem capitalizeFrom_false_cons
    {character : Char}
    (other : character ≠ ' ')
    (rest : List Char) :
    capitalizeFrom false (character :: rest) = character :: capitalizeFrom false rest := by
  rw [capitalizeFrom, beq_eq_false_iff_ne.mpr other, if_neg Bool.false_ne_true,
    List.singleton_append]

theorem capitalizeFrom_true_cons
    {character : Char}
    (other : character ≠ ' ')
    (rest : List Char) :
    capitalizeFrom true (character :: rest) =
      upperCharacter character ++ capitalizeFrom false rest := by
  rw [capitalizeFrom, beq_eq_false_iff_ne.mpr other, if_pos rfl]

theorem isBlankCharacter_space :
    isBlankCharacter ' ' = true := by
  decide

/-- Inside of a word a second pass leaves small letters only. -/
theorem capitalizeFrom_lowerFrom_append_iff
    {further rest : List Char}
    {restStays : Prop}
    (areLetters : ∀ character ∈ further, character ≠ ' ' ∧ character ≠ 'İ')
    (again : ∀ afterCased, capitalizeFrom false (lowerFrom afterCased rest) = rest ↔ restStays)
    (afterCased : Bool) :
    capitalizeFrom false (lowerFrom afterCased (further ++ rest)) = further ++ rest ↔
      (∀ character ∈ further, IsLower character) ∧ restStays := by
  induction further generalizing afterCased with
  | nil =>
      simp [again]
  | cons character more inductionHypothesis =>
      obtain ⟨⟨notSpace, notDotted⟩, moreAreLetters⟩ := List.forall_mem_cons.mp areLetters
      obtain ⟨form, isForm⟩ :=
        exists_lowerBetween_eq notDotted afterCased (more ++ rest)
      have formNotSpace : form ≠ ' ' := by
        rintro rfl
        exact notSpace
          (eq_of_blank_mem_lowerBetween (isForm ▸ List.mem_cons_self) isBlankCharacter_space).symm
      have stays : form = character ↔ IsLower character := by
        rw [← lowerBetween_eq_singleton_iff, isForm, List.cons_eq_cons, and_iff_left rfl]
      rw [List.cons_append, lowerFrom_cons, isForm, List.singleton_append,
        capitalizeFrom_false_cons formNotSpace, List.cons_eq_cons, stays,
        inductionHypothesis moreAreLetters, List.forall_mem_cons, and_assoc]

/-- At the beginning of a word a second pass finds the capital again. -/
theorem capitalizeFrom_lowerFrom_capital_iff
    {character : Char}
    {rest : List Char}
    {restStays : Prop}
    (isLower : IsLower character)
    (notSpace : character ≠ ' ')
    (again : ∀ afterCased, capitalizeFrom false (lowerFrom afterCased rest) = rest ↔ restStays)
    (afterCased : Bool) :
    capitalizeFrom true (lowerFrom afterCased (upperCharacter character ++ rest)) =
        upperCharacter character ++ rest ↔
      HasPlainCapital character ∧ restStays := by
  obtain ⟨first, further, form⟩ := List.exists_cons_of_ne_nil (upperCharacter_ne_nil character)
  have areLetters : ∀ other ∈ upperCharacter character, other ≠ ' ' ∧ other ≠ 'İ' := by
    intro other member
    constructor
    · rintro rfl
      exact notSpace (eq_of_blank_mem_upperCharacter member isBlankCharacter_space).symm
    · rintro rfl
      obtain rfl := eq_of_dotted_mem_upperCharacter member
      exact absurd isLower (by decide)
  obtain ⟨small, isSmall, rises⟩ :=
    (isCapital_of_upperCharacter isLower form).exists_lowerBetween_eq afterCased (further ++ rest)
  rw [form] at areLetters
  obtain ⟨⟨firstNotSpace, -⟩, furtherAreLetters⟩ := List.forall_mem_cons.mp areLetters
  have smallNotSpace : small ≠ ' ' := by
    rintro rfl
    exact firstNotSpace
      (eq_of_blank_mem_lowerBetween (isSmall ▸ List.mem_cons_self) isBlankCharacter_space).symm
  rw [form, List.cons_append, lowerFrom_cons, isSmall, List.singleton_append,
    capitalizeFrom_true_cons smallNotSpace, rises, List.singleton_append, List.cons_eq_cons,
    and_iff_right rfl, capitalizeFrom_lowerFrom_append_iff furtherAreLetters again,
    HasPlainCapital, form, List.tail_cons]

theorem hasPlainCapital_space :
    HasPlainCapital ' ' := by
  rw [HasPlainCapital, upperCharacter_space]
  exact nofun

/-- A second pass over a title changes nothing exactly when the capitals are plain. -/
theorem capitalizeFrom_again_iff
    (areLower : ∀ character ∈ characters, IsLower character)
    (atStart afterCased : Bool) :
    capitalizeFrom atStart (lowerFrom afterCased (capitalizeFrom atStart characters)) =
        capitalizeFrom atStart characters ↔
      ArePlainFrom atStart characters := by
  induction characters generalizing atStart afterCased with
  | nil =>
      simp [capitalizeFrom, lowerFrom, ArePlainFrom]
  | cons character rest inductionHypothesis =>
      obtain ⟨isLower, restAreLower⟩ := List.forall_mem_cons.mp areLower
      have again := inductionHypothesis restAreLower
      by_cases isSpace : character = ' '
      · subst isSpace
        rw [capitalizeFrom_space, lowerFrom_cons, lowerBetween_of_isLower isLower,
          List.singleton_append, capitalizeFrom_space, List.cons_eq_cons, and_iff_right rfl, again,
          ArePlainFrom, and_iff_right fun _ => hasPlainCapital_space, beq_self_eq_true]
      · rw [ArePlainFrom, beq_eq_false_iff_ne.mpr isSpace]
        cases atStart with
        | false =>
            have notDotted : character ≠ 'İ' := by
              rintro rfl
              exact absurd isLower (by decide)
            have inside :=
              capitalizeFrom_lowerFrom_append_iff
                (List.forall_mem_singleton.mpr ⟨isSpace, notDotted⟩) (again false) afterCased
            rw [capitalizeFrom_false_cons isSpace]
            simpa [isLower] using inside
        | true =>
            rw [capitalizeFrom_true_cons isSpace,
              capitalizeFrom_lowerFrom_capital_iff isLower isSpace (again false),
              imp_iff_right (rfl : true = true)]

/-- The letters at the beginnings of words, after the first word, are those of the pieces. -/
theorem arePlainFrom_iff
    (arePieces : piecesAt ' ' characters = piece :: others) :
    ArePlainFrom atStart characters ↔
      (atStart = true → ∀ first ∈ piece.head?, HasPlainCapital first) ∧
        ∀ word ∈ others, ∀ first ∈ word.head?, HasPlainCapital first := by
  induction characters generalizing atStart piece others with
  | nil =>
      obtain ⟨rfl, rfl⟩ := List.cons.inj arePieces
      simp [ArePlainFrom]
  | cons character rest inductionHypothesis =>
      obtain ⟨next, words, areNext⟩ :=
        List.exists_cons_of_ne_nil (isCut_piecesAt ' ' rest).nonempty
      rw [piecesAt, areNext] at arePieces
      rw [ArePlainFrom, inductionHypothesis areNext]
      by_cases isSpace : character = ' '
      · subst isSpace
        rw [if_pos rfl] at arePieces
        obtain ⟨rfl, rfl⟩ := List.cons.inj arePieces
        simp [hasPlainCapital_space]
      · rw [if_neg isSpace] at arePieces
        obtain ⟨rfl, rfl⟩ := List.cons.inj arePieces
        simp [isSpace]

/-- Every word of a text in lower case begins with a letter that has a plain capital. -/
def HasPlainTitle (text : String) : Prop :=
  ∀ word ∈ piecesAt ' ' (lower text).toList, ∀ first ∈ word.head?, HasPlainCapital first

instance (text : String) : Decidable (HasPlainTitle text) :=
  have : DecidablePred fun word : List Char => ∀ first ∈ word.head?, HasPlainCapital first :=
    fun word => Option.decidableForallMem word.head?
  List.decidableBAll _ (piecesAt ' ' (lower text).toList)

/-- A second title is the first one exactly when the title is plain. -/
theorem titled_titled_iff
    (text : String) :
    titled (titled text) = titled text ↔ HasPlainTitle text := by
  obtain ⟨piece, others, arePieces⟩ :=
    List.exists_cons_of_ne_nil (isCut_piecesAt ' ' (lowerFrom false text.toList)).nonempty
  rw [titled_eq (titled text), titled_eq text, String.toList_ofList, String.ofList_inj,
    capitalizeFrom_again_iff (fun _ => isLower_of_mem_lowerFrom), arePlainFrom_iff arePieces,
    HasPlainTitle, lower, String.toList_ofList, arePieces, List.forall_mem_cons,
    imp_iff_right (rfl : true = true)]

end CleaningOperation

/-!
## Cleaning a cleaned column

A column that has been cleaned is clean, with one exception. A letter may have a capital of several
letters, as `ß` has `SS`. A title shows all of them at the beginning of a word, and the next title
keeps the first one only.
-/

namespace CleaningOperation

theorem keepCharacters_keepCharacters
    (keep : Char → Bool)
    (text : String) :
    keepCharacters keep (keepCharacters keep text) = keepCharacters keep text := by
  rw [keepCharacters, keepCharacters, String.toList_ofList, List.filter_filter]
  simp only [Bool.and_self]

/-- An operation leaves what it has made of a text, apart from titles that are not plain. -/
theorem apply_apply_iff
    (operation : CleaningOperation)
    (text : String) :
    operation.apply (operation.apply text) = operation.apply text ↔
      (operation = .titlecase → HasPlainTitle text) := by
  cases operation with
  | trim =>
      exact iff_of_true (Text.trim_trim text) nofun
  | uppercase =>
      exact iff_of_true (Text.upper_upper text) nofun
  | lowercase =>
      exact iff_of_true (Text.lower_lower text) nofun
  | titlecase =>
      rw [imp_iff_right rfl]
      exact titled_titled_iff text
  | removeSpecialChars =>
      exact iff_of_true (keepCharacters_keepCharacters _ text) nofun
  | removeNumbers =>
      exact iff_of_true (keepCharacters_keepCharacters _ text) nofun
  | numbersOnly =>
      exact iff_of_true (keepCharacters_keepCharacters _ text) nofun

theorem applyToCell_applyToCell_iff
    (operation : CleaningOperation)
    (cell : Cell) :
    operation.applyToCell (operation.applyToCell cell) = operation.applyToCell cell ↔
      (operation = .titlecase → HasPlainTitle cell.display) := by
  by_cases isNull : cell = .null
  · subst isNull
    have plain : HasPlainTitle Cell.null.display := by
      simp [HasPlainTitle, Cell.display, Text.lower, Text.lowerFrom, Text.piecesAt]
    exact iff_of_true rfl fun _ => plain
  · have cleaned : operation.applyToCell cell = .text (operation.apply cell.display) := by
      cases cell <;> first | rfl | exact absurd rfl isNull
    rw [cleaned, ← apply_apply_iff]
    exact Cell.text.injEq _ _ ▸ Iff.rfl

end CleaningOperation

theorem Row.clean_clean_iff
    (row : Row)
    (column : String)
    (operation : CleaningOperation) :
    (row.clean column operation).clean column operation = row.clean column operation ↔
      ∀ cell ∈ row.find? column,
        operation.applyToCell (operation.applyToCell cell) = operation.applyToCell cell := by
  cases isFound : row.find? column with
  | none =>
      simp [Row.clean, isFound]
  | some cell =>
      have foundAgain :
          (row.insert column (operation.applyToCell cell)).find? column =
            some (operation.applyToCell cell) := by
        rw [Assoc.find?_insert, if_pos rfl]
      simp only [Row.clean, isFound, foundAgain, Assoc.insert_insert, Option.mem_some_iff,
        forall_eq']
      constructor
      · intro same
        have sameCell := congrArg (Assoc.find? · column) same
        simpa only [Assoc.find?_insert, if_pos, Option.some.injEq] using sameCell
      · intro same
        rw [same]

/--
Cleaning a cleaned column changes nothing exactly when no title has a capital of several letters:
every operation but the one that makes titles can be repeated on every table, and so can that one
where each word begins with a letter whose capital has no further capitals in it.
-/
theorem cleaning_again_changes_nothing_iff
    (column : String)
    (operation : CleaningOperation)
    (table : Table) :
    (cleanColumn column operation (cleanColumn column operation table)).rows =
        (cleanColumn column operation table).rows ↔
      (operation = .titlecase →
        ∀ row ∈ table.rows, ∀ cell ∈ row.find? column,
          CleaningOperation.HasPlainTitle cell.display) := by
  change ((table.rows.map fun row => row.clean column operation).map
      fun row => row.clean column operation) =
    (table.rows.map fun row => row.clean column operation) ↔ _
  rw [List.map_map, List.map_inj_left]
  simp only [Function.comp_apply, Row.clean_clean_iff,
    CleaningOperation.applyToCell_applyToCell_iff]
  constructor
  · intro again isTitle row member cell isFound
    exact again row member cell isFound isTitle
  · intro plain row member cell isFound isTitle
    exact plain isTitle row member cell isFound

namespace Table.Sample

/-- A word that begins with a letter whose capital is `SS`. -/
def sharpened : Table :=
  .ofRows (some "words") [.ofList [("word", .text "ßa")]]

/-- The second title of the word has lost a capital of the first one. -/
theorem sharpened_is_not_clean :
    ¬(cleanColumn "word" .titlecase (cleanColumn "word" .titlecase sharpened)).rows =
        (cleanColumn "word" .titlecase sharpened).rows ∧
      CleaningOperation.titled "ßa" = "SSa" ∧ CleaningOperation.titled "SSa" = "Ssa" := by
  refine ⟨fun same => ?_, by decide +kernel, by decide +kernel⟩
  have plain :=
    (cleaning_again_changes_nothing_iff "word" .titlecase sharpened).mp same rfl
      (.ofList [("word", .text "ßa")]) List.mem_cons_self (.text "ßa") rfl
  exact absurd plain (by decide +kernel)

end Table.Sample

end Tabular
