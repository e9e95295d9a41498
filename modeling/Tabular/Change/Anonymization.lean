import Tabular.Slice
import Tabular.Table.Basic
import Tabular.Text.Unit

namespace Tabular

/-!
# Anonymization

Values are hidden column by column: masked in part, replaced by a marker, replaced by a short token
that depends on the value only, or left out with their column. How a value is masked depends on the
kind of its column. Blank cells stay as they are.
-/

/-- How values are hidden. -/
inductive AnonymizationMethod where
  | mask
  | redact
  | hash
  | remove
deriving DecidableEq, Inhabited

namespace AnonymizationMethod

/-- The name of a method. -/
def name : AnonymizationMethod → String
  | .mask => "mask"
  | .redact => "redact"
  | .hash => "hash"
  | .remove => "remove"

/-- All methods. -/
def all : List AnonymizationMethod :=
  [.mask, .redact, .hash, .remove]

/-- The method that a value names for a column; any other value is a fault. -/
def ofCell (column : Option String) (value : Cell) : Outcome AnonymizationMethod :=
  match all.find? fun method => Cell.text method.name == value with
  | some method => .ok method
  | none => .error (.config (.anonymization value column))

end AnonymizationMethod

namespace Mask

/-- Three stars. -/
def stars : List Char := ['*', '*', '*']

/-- The first and the last character with up to five stars between them. -/
def generic (text : List Char) : List Char :=
  match text with
  | first :: _ :: _ :: _ =>
      first :: List.replicate (min (text.length - 2) 5) '*' ++ text.drop (text.length - 1)
  | _ => stars

/-- The first character of the local part, and the domain. -/
def email (text : List Char) : List Char :=
  match Text.piecesAt '@' text with
  | [localPart, domain] =>
      (if 1 < localPart.length then localPart.take 1 ++ stars else stars) ++ '@' :: domain
  | _ => generic text

/-- The last four digits of a telephone number. -/
def phone (text : List Char) : List Char :=
  let digits := text.filter Text.isDecimalDigit
  if 4 ≤ digits.length then "***-***-".toList ++ digits.drop (digits.length - 4)
  else "***-***-****".toList

/-- The first two digits of a postal code. -/
def zipcode (text : List Char) : List Char :=
  let digits := text.filter Text.isDecimalDigit
  if 2 ≤ digits.length then digits.take 2 ++ stars else "*****".toList

/-- A text masked as its kind asks for. -/
def value (kind : SmartKind) (text : String) : String :=
  String.ofList
    (match kind with
    | .email => email text.toList
    | .phone => phone text.toList
    | .zipcode => zipcode text.toList
    | _ => generic text.toList)

end Mask

namespace Token

/-- The rolling sum of units in base 31, as a word of 32 bits. -/
def rollingHash (units : List Nat) : Nat :=
  units.foldl (fun hash unit => (hash * 31 + unit) % Nat.pow 2 32) 0

/-- A word of 32 bits as a signed number. -/
def signed (word : Nat) : Int :=
  if word < Nat.pow 2 31 then word else (word : Int) - Nat.pow 2 32

/-- The upper-case hexadecimal digit of a value below sixteen. -/
def hexDigit (value : Nat) : Char :=
  if value < 10 then Char.ofNat (48 + value) else Char.ofNat (55 + value)

/-- Eight hexadecimal digits of a number below `2 ^ 32`. -/
def eightDigits (value : Nat) : List Char :=
  [7, 6, 5, 4, 3, 2, 1, 0].map fun place => hexDigit (value / Nat.pow 16 place % 16)

/-- The token of a text: the size of its rolling hash in hexadecimal. -/
def ofText (text : String) : String :=
  String.ofList (eightDigits (signed (rollingHash (Text.units text))).natAbs)

end Token

/-- The cell that hides a cell. -/
def Cell.anonymize (settings : Settings) (method : AnonymizationMethod) (kind : SmartKind)
    (cell : Cell) : Cell :=
  if cell.isMissing || cell = .text "" then cell
  else
    match method with
    | .mask => .text (Mask.value kind cell.display)
    | .redact => .text settings.redactedMarker
    | .hash => .text (Token.ofText cell.display)
    | .remove => .null

/-- A kind whose values are sensitive. -/
def SmartKind.isSensitive (kind : SmartKind) : Bool :=
  [.email, .phone, .url, .zipcode].contains kind

/-- The columns whose kinds are sensitive, which are to be masked. -/
def suggestMethods (kinds : Assoc SmartTypeInfo) : Assoc AnonymizationMethod :=
  Assoc.ofList
    ((kinds.entries.filter fun entry => entry.2.kind.isSensitive).map fun entry =>
      (entry.1, .mask))

/-- The methods that values name for columns; the first value that names none is a fault. -/
def checkMethods (named : Assoc Cell) : Outcome (Assoc AnonymizationMethod) :=
  named.entries.foldlM
    (fun methods entry =>
      (AnonymizationMethod.ofCell (some entry.1) entry.2).map (methods.insert entry.1))
    .empty

namespace Anonymization

/-- The columns that are not left out. -/
def keptColumns (methods : Assoc AnonymizationMethod) (columns : List String) : List String :=
  columns.filter fun column => methods.find? column ≠ some .remove

/-- The cell of a row in a column, hidden when a method is named for the column. -/
def hiddenCell (settings : Settings) (methods : Assoc AnonymizationMethod)
    (kinds : Assoc SmartTypeInfo) (row : Row) (column : String) : Cell :=
  match methods.find? column with
  | some method =>
      (row.cell column).anonymize settings method
        (((kinds.find? column).map SmartTypeInfo.kind).getD .none)
  | none => row.cell column

/-- The cells of a row in the given columns, hidden. -/
def hideRow (settings : Settings) (methods : Assoc AnonymizationMethod)
    (kinds : Assoc SmartTypeInfo) (columns : List String) (row : Row) : Row :=
  Assoc.ofList
    (columns.map fun column => (column, hiddenCell settings methods kinds row column))

end Anonymization

/-- The table with values hidden, where the columns have the given kinds. -/
def anonymizeTable (settings : Settings) (methods : Assoc AnonymizationMethod)
    (kinds : Assoc SmartTypeInfo) (table : Table) : Table :=
  let columns := Anonymization.keptColumns methods table.columns
  Table.ofColumns table.name columns
    (table.rows.map (Anonymization.hideRow settings methods kinds columns))

/-- The first rows of a table with values hidden. -/
def previewAnonymized (settings : Settings) (methods : Assoc AnonymizationMethod)
    (kinds : Assoc SmartTypeInfo) (limit : Option Int) (table : Table) : List Row :=
  let columns := Anonymization.keptColumns methods table.columns
  (Slice.before (limit.getD settings.previewRows) table.rows).map
    (Anonymization.hideRow settings methods kinds columns)

end Tabular
