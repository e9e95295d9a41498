import Tabular.Assoc
import Tabular.Json.Basic
import Tabular.Number.Amount

namespace Tabular

/-!
# Shapes of documents

Lists, maps, amounts and optional values as documents, and the parts of a document by their shapes.
A part that is not there or has another shape reads as nothing, or as empty.
-/

namespace Json

/-- The text that a document is. -/
def toText? : Json → Option String
  | .text value => some value
  | _ => none

/-- The integer that a document is. -/
def toInt? : Json → Option Int
  | .int value => some value
  | _ => none

/-- The amount that a document is; truth values count as whole numbers. -/
def toAmount? : Json → Option Amount
  | .bool value => some (.whole (if value then 1 else 0))
  | .int value => some (.whole value)
  | .float value => some (.real value)
  | _ => none

/-- The elements of an array. -/
def elements : Json → List Json
  | .array values => values
  | _ => []

/-- The members of an object. -/
def members : Json → List (String × Json)
  | .object entries => entries
  | _ => []

/-- The part of a document under a key. -/
def part (document : Json) (key : String) : Json :=
  (document.member? key).getD .null

/-- The part of a document under a key, unless it is nothing. -/
def given? (document : Json) (key : String) : Option Json :=
  match document.part key with
  | .null => none
  | found => some found

/-- The text under a key. -/
def textAt (document : Json) (key : String) : String :=
  (document.part key).toText?.getD ""

/-- The integer under a key. -/
def intAt (document : Json) (key : String) (default : Int) : Int :=
  (document.part key).toInt?.getD default

/-- The texts that an array lists. -/
def texts (document : Json) : List String :=
  document.elements.filterMap toText?

/-- A list of texts as a document. -/
def ofTexts (values : List String) : Json :=
  .array (values.map .text)

/-- A list of natural numbers as a document. -/
def ofNats (values : List Nat) : Json :=
  .array (values.map fun (value : Nat) => .int value)

/-- A value or nothing as a document. -/
def ofOption {α : Type} (write : α → Json) (value : Option α) : Json :=
  (value.map write).getD .null

end Json

/-- An amount as a document. -/
def Amount.toJson (amount : Amount) : Json :=
  amount.toCell.toJson

namespace Assoc

variable {α : Type}

/-- A map as an object. -/
def toJson (write : α → Json) (map : Assoc α) : Json :=
  .object (map.entries.map fun entry => (entry.1, write entry.2))

/-- The map that an object tells. -/
def ofJson (read : Json → α) (document : Json) : Assoc α :=
  ofList (document.members.map fun entry => (entry.1, read entry.2))

end Assoc

end Tabular
