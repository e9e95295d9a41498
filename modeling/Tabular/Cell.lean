import Tabular.Calendar.Date
import Tabular.Text.Blank

namespace Tabular

/-!
# Cells

A cell is one scalar of a table: nothing, a truth value, an integer of any size, a binary64 number,
a text, a date or a moment. A cell has two texts. Its *display text* is what a reader of the table
sees, and it is what filters, joins, pivots and searches compare; its *literal text* is how messages
quote it.
-/

/-- One scalar of a table. -/
inductive Cell where
  | null
  | bool (value : Bool)
  | int (value : Int)
  | float (value : Binary64)
  | text (value : String)
  | date (value : Calendar.Date)
  | moment (value : Calendar.Moment)
deriving DecidableEq, Inhabited

namespace Cell

/-- How messages quote a cell. -/
def literal : Cell → String
  | .null => "None"
  | .bool value => if value then "True" else "False"
  | .int value => Decimal.ofInt value
  | .float value => value.written
  | .text value => value
  | .date value => String.ofList value.written
  | .moment value => value.written ' '

/-- The display text of a binary64 number: whole numbers below `10 ^ 21` lose their point. -/
def displayFloat (value : Binary64) : String :=
  match value.toInt? with
  | some whole => if whole.natAbs < Nat.pow 10 21 then Decimal.ofInt whole else value.written
  | none => if value.isNaN then "" else value.written

/-- What a reader of the table sees; a missing value shows as nothing. -/
def display : Cell → String
  | .null => ""
  | .bool value => if value then "true" else "false"
  | .float value => displayFloat value
  | cell => cell.literal

/-- Nothing, not a number, or a text of blanks. -/
def isBlank : Cell → Bool
  | .null => true
  | .float value => value.isNaN
  | .text value => Text.isBlank value
  | _ => false

/-- Nothing or not a number. -/
def isMissing : Cell → Bool
  | .null => true
  | .float value => value.isNaN
  | _ => false

end Cell

end Tabular
