import Tabular.Proofs.Analysis.Outliers
import Tabular.Proofs.Assoc
import Tabular.Proofs.Cell.Display
import Tabular.Proofs.Change.Titles
import Tabular.Proofs.Filter.Answers

namespace Tabular

/-!
# Numbers in cleaned columns

Trimming and changes of case keep the numbers of a column. A cell that is a number is displayed as a
numeral, a change of case touches no more of a numeral than the letter of its exponent, and trimming
takes off what is skipped anyway; what is no number does not become one. So numeric filters keep the
same rows of a cleaned table, and the outliers of the column are the same ones.
-/

namespace CleaningOperation

/-- The operations that change blanks at the ends or the case of letters only. -/
def standardizing : List CleaningOperation :=
  [.trim, .uppercase, .lowercase, .titlecase]

theorem recased_capitalizeFrom
    (atStart : Bool)
    (characters : List Char) :
    Text.Recased characters (capitalizeFrom atStart characters) := by
  induction characters generalizing atStart with
  | nil =>
      exact .nil
  | cons character rest inductionHypothesis =>
      rw [capitalizeFrom]
      refine .cons ?_ (inductionHypothesis _)
      cases atStart with
      | true =>
          exact Text.recases_upperCharacter character
      | false =>
          exact Text.Recases.refl character

/-- Texts are read as the same numbers when their blanks and cases are changed. -/
theorem numberOfText?_apply
    {operation : CleaningOperation}
    (standardizes : operation ∈ standardizing)
    (text : String) :
    Cell.numberOfText? (operation.apply text) = Cell.numberOfText? text := by
  have recased
      {characters others : List Char}
      (recased : Text.Recased characters others) :
      Cell.numberOfText? (String.ofList others) = Cell.numberOfText? (String.ofList characters) :=
    Cell.numberOfText?_of_recased recased
  cases operation with
  | trim =>
      rw [apply, Text.trim, Cell.numberOfText?_eq, Cell.numberOfText?_eq, String.toList_ofList,
        Text.trimBoth_trimBoth]
  | uppercase =>
      rw [apply, Text.upper, recased (Text.recased_upper text.toList), String.ofList_toList]
  | lowercase =>
      rw [apply, Text.lower, recased (Text.recased_lowerFrom false text.toList),
        String.ofList_toList]
  | titlecase =>
      rw [apply, titled_eq, recased (recased_capitalizeFrom true _),
        recased (Text.recased_lowerFrom false text.toList), String.ofList_toList]
  | removeSpecialChars | removeNumbers | numbersOnly =>
      exact absurd standardizes (by decide)

/-- A readable cell is read as the same number when it is cleaned. -/
theorem readAlike_applyToCell
    {operation : CleaningOperation}
    {cell : Cell}
    (standardizes : operation ∈ standardizing)
    (readable : cell.IsReadable) :
    Cell.ReadAlike cell (operation.applyToCell cell) := by
  by_cases isNull : cell = .null
  · subst isNull
    exact Cell.readAlike_of_number? rfl rfl
  · have cleaned : operation.applyToCell cell = .text (operation.apply cell.display) := by
      cases cell <;> first | rfl | exact absurd rfl isNull
    rw [cleaned]
    refine (Cell.readAlike_display readable).trans (Cell.readAlike_of_number? rfl ?_)
    rw [Cell.number?_text, numberOfText?_apply standardizes, ← Cell.number?_text]

end CleaningOperation

/-! ## Cleaned rows -/

section

variable {row : Row} {column : String} {operation : CleaningOperation}

theorem Row.cell_clean
    (row : Row)
    (column other : String)
    (operation : CleaningOperation) :
    (row.clean column operation).cell other =
      if column = other then operation.applyToCell (row.cell other) else row.cell other := by
  rw [clean, cell, cell]
  cases isFound : row.find? column with
  | none =>
      by_cases same : column = other
      · rw [if_pos same, ← same, isFound]
        rfl
      · rw [if_neg same]
  | some cell =>
      simp only [Assoc.find?_insert]
      by_cases same : column = other
      · rw [if_pos same, if_pos same, ← same, isFound]
        rfl
      · rw [if_neg same, if_neg same]

/-- Every condition on the column compares numbers. -/
def FilterNode.ComparesNumbersIn (column : String) (tree : FilterNode) : Prop :=
  ∀ condition ∈ tree.conditions, condition.field = some column →
    ∃ operator, condition.operator? = some (.onNumber operator)

/-- A comparison of numbers does not tell a cleaned row from the old one. -/
theorem Condition.evaluate_clean
    {condition : Condition}
    (caseSensitive : Bool)
    (standardizes : operation ∈ CleaningOperation.standardizing)
    (readable : (row.cell column).IsReadable)
    (comparesNumbers :
      condition.field = some column → ∃ operator, condition.operator? = some (.onNumber operator)) :
    condition.evaluate caseSensitive (row.clean column operation) =
      condition.evaluate caseSensitive row := by
  by_cases isColumn : condition.field = some column
  · obtain ⟨operator, asked⟩ := comparesNumbers isColumn
    have cellOf (row : Row) : condition.cellOf row = row.cell column := by
      rw [Condition.cellOf, isColumn]
    cases finished : condition.isUnfinished with
    | true =>
        rw [evaluate_of_unfinished asked finished, evaluate_of_unfinished asked finished]
    | false =>
        rw [evaluate_of_onNumber asked finished, evaluate_of_onNumber asked finished, cellOf,
          cellOf, Row.cell_clean, if_pos rfl]
        exact
          (operator.compare_of_readAlike
            (CleaningOperation.readAlike_applyToCell standardizes readable) condition.value).symm
  · have sameCell : condition.cellOf (row.clean column operation) = condition.cellOf row := by
      rw [cellOf, cellOf]
      cases isField : condition.field with
      | none =>
          rfl
      | some field =>
          have other : column ≠ field := by
            rintro rfl
            exact isColumn isField
          exact (row.cell_clean column field operation).trans (if_neg other)
    rw [evaluate, evaluate, sameCell]

end

theorem cells_cleanColumn
    (column : String)
    (operation : CleaningOperation)
    (table : Table) :
    (cleanColumn column operation table).cells column =
      (table.cells column).map operation.applyToCell := by
  change (table.rows.map fun row => row.clean column operation).map
      (fun row => row.cell column) = _
  rw [Table.cells, List.map_map, List.map_map]
  apply List.map_congr_left
  intro row _
  exact (row.cell_clean column column operation).trans (if_pos rfl)

/--
Trimming and changes of case keep numbers: a cell that is read as a number, or known to be none, is
read as an equal one when it is cleaned, or as none. In a table with such cells in a column, filters
that compare numbers in the column keep the same rows of the cleaned table, and the column has the
same outliers.
-/
theorem standardizing_keeps_numbers
    (operation : CleaningOperation)
    (standardizes : operation ∈ CleaningOperation.standardizing) :
    (∀ (cell : Cell) (number : Option Binary64),
      cell.number? = .ok number →
        ∃ numberToo, (operation.applyToCell cell).number? = .ok numberToo ∧
          Option.Rel (fun left right => left.eqv right = true) number numberToo) ∧
    ∀ (table : Table) (column : String),
      (∀ cell ∈ table.cells column, cell.IsReadable) →
        (∀ (caseSensitive : Bool) (tree : FilterNode),
          tree.ComparesNumbersIn column →
            (filterRows caseSensitive tree (cleanColumn column operation table)).map
                (fun found => (found.1.rows, found.2)) =
              (filterRows caseSensitive tree table).map fun found =>
                (found.1.rows.map fun row => row.clean column operation, found.2)) ∧
        ∀ settings : Settings,
          Quality.findOutliers settings ((cleanColumn column operation table).cells column) =
            Quality.findOutliers settings (table.cells column) := by
  refine ⟨?_, fun table column readable => ⟨?_, ?_⟩⟩
  · intro cell number isNumber
    exact (CleaningOperation.readAlike_applyToCell standardizes ⟨number, isNumber⟩).rel isNumber
  · intro caseSensitive tree comparesNumbers
    have sameAnswers :
        ∀ row ∈ table.rows,
          tree.evaluate caseSensitive (row.clean column operation) =
            tree.evaluate caseSensitive row := by
      intro row member
      apply FilterNode.evaluate_of_same_answers
      intro condition isCondition
      exact
        Condition.evaluate_clean caseSensitive standardizes
          (readable _ (List.mem_map_of_mem member)) (comparesNumbers condition isCondition)
    have keptRows :
        keepRows (tree.evaluate caseSensitive) (cleanColumn column operation table).rows = _ :=
      keepRows_map sameAnswers
    rw [filterRows, filterRows, keptRows]
    cases keepRows (tree.evaluate caseSensitive) table.rows <;> rfl
  · intro settings
    rw [cells_cleanColumn]
    refine (Quality.findOutliers_of_readAlike settings ?_).symm
    rw [List.forall₂_map_right_iff, List.forall₂_same]
    exact fun cell member =>
      CleaningOperation.readAlike_applyToCell standardizes (readable cell member)

namespace CleaningOperation.Sample

/-- A number that is too large to be displayed without an exponent. -/
def large : Binary64 :=
  .ofNat (10 ^ 22)

/-- Amounts of all kinds: a whole number, a large number, and texts, one of which is a numeral. -/
def amounts : Table :=
  .ofRows (some "amounts")
    [ .ofList [("amount", .int 7)],
      .ofList [("amount", .float large)],
      .ofList [("amount", .text " 3.5e2 ")],
      .ofList [("amount", .text "n/a")] ]

/-- The amounts above a hundred. -/
def aboveHundred : FilterNode :=
  .condition { id := "c", field := some "amount", operator := some ">", value := .int 100 }

/-- The amounts are the same numbers when the exponents are written with a capital. -/
theorem capitals_keep_amounts :
    .uppercase ∈ standardizing ∧
      (Cell.float large).number? = .ok (some large) ∧
      (∃ number, (uppercase.applyToCell (.float large)).number? = .ok (some number) ∧
        large.eqv number = true) ∧
      (∀ cell ∈ amounts.cells "amount", cell.IsReadable) ∧
      aboveHundred.ComparesNumbersIn "amount" ∧
      Quality.findOutliers {} ((cleanColumn "amount" .uppercase amounts).cells "amount") =
        Quality.findOutliers {} (amounts.cells "amount") ∧
      (filterRows false aboveHundred (cleanColumn "amount" .uppercase amounts)).map
          (fun found => (found.1.rows, found.2)) =
        (filterRows false aboveHundred amounts).map fun found =>
          (found.1.rows.map fun row => row.clean "amount" .uppercase, found.2) := by
  have standardizes : .uppercase ∈ standardizing := by decide
  have isNumber : (Cell.float large).number? = .ok (some large) := by decide +kernel
  have readable : ∀ cell ∈ amounts.cells "amount", cell.IsReadable := by
    have areCells :
        amounts.cells "amount" = [.int 7, .float large, .text " 3.5e2 ", .text "n/a"] := by
      decide +kernel
    have isWhole : (Cell.int 7).number? = .ok (some (.ofNat 7)) := by decide +kernel
    have isNumeral : (Cell.text " 3.5e2 ").number? = .ok (some (.ofNat 350)) := by decide +kernel
    have isNone : (Cell.text "n/a").number? = .ok none := by decide +kernel
    rw [areCells]
    simp only [List.forall_mem_cons]
    exact
      ⟨⟨_, isWhole⟩, ⟨_, isNumber⟩, ⟨_, isNumeral⟩, ⟨_, isNone⟩, List.forall_mem_nil _⟩
  have comparesNumbers : aboveHundred.ComparesNumbersIn "amount" := by
    intro condition isCondition _
    obtain rfl := List.mem_singleton.mp isCondition
    exact ⟨.greater, by decide +kernel⟩
  obtain ⟨keepsNumbers, keepsTables⟩ := standardizing_keeps_numbers .uppercase standardizes
  obtain ⟨keepsFilters, keepsOutliers⟩ := keepsTables amounts "amount" readable
  obtain ⟨numberToo, isNumberToo, same⟩ := keepsNumbers _ _ isNumber
  cases same with
  | some same =>
      exact
        ⟨standardizes, isNumber, ⟨_, isNumberToo, same⟩, readable, comparesNumbers,
          keepsOutliers {}, keepsFilters false _ comparesNumbers⟩

end CleaningOperation.Sample

end Tabular
