import Tabular.Slice
import Tabular.Table.Basic
import Tabular.Table.Frame
import Tabular.Text.Case

namespace Tabular

/-!
# Cleaning tables

Changes of the texts of a column, removal of repeated rows and filling of empty cells. A cell that
is cleaned becomes a text, except that an empty cell stays empty. Cleaning a column and filling
cells describe the table anew; removing repeated rows keeps its description.
-/

/-- A change of the texts of a column. -/
inductive CleaningOperation where
  | trim
  | uppercase
  | lowercase
  | titlecase
  | removeSpecialChars
  | removeNumbers
  | numbersOnly
deriving DecidableEq

namespace CleaningOperation

/-- The name of an operation. -/
def name : CleaningOperation → String
  | .trim => "trim"
  | .uppercase => "uppercase"
  | .lowercase => "lowercase"
  | .titlecase => "titlecase"
  | .removeSpecialChars => "removeSpecialChars"
  | .removeNumbers => "removeNumbers"
  | .numbersOnly => "numbersOnly"

/-- All operations. -/
def all : List CleaningOperation :=
  [.trim, .uppercase, .lowercase, .titlecase, .removeSpecialChars, .removeNumbers, .numbersOnly]

/-- The operation that a value names; any other value is a fault. -/
def ofCell (value : Cell) : Outcome CleaningOperation :=
  match all.find? fun operation => Cell.text operation.name == value with
  | some operation => .ok operation
  | none => .error (.config (.cleaningOperation value))

/-- A word with its first letter in upper case. -/
def capitalized : List Char → List Char
  | [] => []
  | first :: rest => Text.upperCharacter first ++ rest

/-- Words with single blanks between them. -/
def joinWords : List (List Char) → List Char
  | [] => []
  | [word] => word
  | word :: rest => word ++ ' ' :: joinWords rest

/-- Every word in lower case after a capital. -/
def titled (text : String) : String :=
  String.ofList (joinWords ((Text.piecesAt ' ' (Text.lower text).toList).map capitalized))

/-- The characters of a text that satisfy a test. -/
def keepCharacters (keep : Char → Bool) (text : String) : String :=
  String.ofList (text.toList.filter keep)

/-- The text that an operation makes of a text. -/
def apply : CleaningOperation → String → String
  | .trim, text => Text.trim text
  | .uppercase, text => Text.upper text
  | .lowercase, text => Text.lower text
  | .titlecase, text => titled text
  | .removeSpecialChars, text =>
      keepCharacters
        (fun character => character.isAlphanum || Text.isBlankCharacter character) text
  | .removeNumbers, text => keepCharacters (fun character => !character.isDigit) text
  | .numbersOnly, text =>
      keepCharacters
        (fun character => character.isDigit || character == '.' || character == '-') text

/-- The cell that an operation makes of a cell. -/
def applyToCell (operation : CleaningOperation) : Cell → Cell
  | .null => .null
  | cell => .text (operation.apply cell.display)

end CleaningOperation

/-- The row with the cell of a column cleaned; a row without the column stays. -/
def Row.clean (row : Row) (column : String) (operation : CleaningOperation) : Row :=
  match row.find? column with
  | some cell => row.insert column (operation.applyToCell cell)
  | none => row

/-- The table with a column cleaned. -/
def cleanColumn (column : String) (operation : CleaningOperation) (table : Table) : Table :=
  table.replace (table.rows.map fun row => row.clean column operation)

/-- A cell that cleaning changes. -/
structure CleaningChange where
  rowIndex : Nat
  before : Cell
  after : Cell

/-- The cells that cleaning changes, with their places from the given one on. -/
def changesFrom (operation : CleaningOperation) : Nat → List Cell → List CleaningChange
  | _, [] => []
  | index, before :: rest =>
      let after := operation.applyToCell before
      if after = before then changesFrom operation (index + 1) rest
      else { rowIndex := index, before, after } :: changesFrom operation (index + 1) rest

/--
The first cells that cleaning a column would change, among the first `sample` rows or all of them.
At least one is shown when there is one.
-/
def previewCleaning (column : String) (operation : CleaningOperation) (sample : Option Int)
    (limit : Int) (table : Table) : List CleaningChange :=
  let cells := (Slice.upTo sample table.rows).map fun row => row.cell column
  (changesFrom operation 0 cells).take (max limit.toNat 1)

/-- The elements whose places are not listed. -/
def dropPlaces {α : Type} (places : List Nat) : Nat → List α → List α
  | _, [] => []
  | index, element :: rest =>
      if places.contains index then dropPlaces places (index + 1) rest
      else element :: dropPlaces places (index + 1) rest

/-- The table without the rows that repeat an earlier one. -/
def removeDuplicateRows (table : Table) : Outcome Table := do
  if table.isEmpty then return table
  let places ← duplicateIndices table.rows table.columns
  return table.derive (dropPlaces places 0 table.rows)

/-- The row with the cell of a column filled when it is blank. -/
def Row.fill (row : Row) (column : String) (value : Cell) : Row :=
  if (row.cell column).isBlank then row.insert column value else row

/-- The table with the blank cells of a column filled. -/
def fillEmpty (column : String) (value : Cell) (table : Table) : Table :=
  table.replace (table.rows.map fun row => row.fill column value)

end Tabular
