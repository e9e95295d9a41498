import Tabular.Cell

namespace Tabular

/-!
# Structured documents

A JSON document. Integers and binary64 numbers are kept apart, and objects keep the order of their
members, which is the order in which columns, methods and types are walked.
-/

/-- A JSON document. -/
inductive Json where
  | null
  | bool (value : Bool)
  | int (value : Int)
  | float (value : Binary64)
  | text (value : String)
  | array (elements : List Json)
  | object (members : List (String × Json))
deriving Inhabited

namespace Json

/-- The value of the last member with the key. -/
def lastMember? (key : String) (members : List (String × Json)) : Option Json :=
  (members.reverse.find? fun entry => entry.1 == key).map Prod.snd

/-- The member of an object with the given key. -/
def member? (key : String) : Json → Option Json
  | .object members => lastMember? key members
  | _ => none

/-- A scalar document as a cell; arrays and objects are no cells. -/
def toCell? : Json → Option Cell
  | .null => some .null
  | .bool value => some (.bool value)
  | .int value => some (.int value)
  | .float value => some (.float value)
  | .text value => some (.text value)
  | _ => none

/-- Nothing, false, a zero, an empty text or an empty collection. -/
def isVoid : Json → Bool
  | .null => true
  | .bool value => !value
  | .int value => value == 0
  | .float value => value.isZero
  | .text value => value.isEmpty
  | .array elements => elements.isEmpty
  | .object members => members.isEmpty

mutual

/-- How deep a document nests. -/
def depth : Json → Nat
  | .array elements => depthOfElements elements + 1
  | .object members => depthOfMembers members + 1
  | _ => 0

/-- How deep the deepest of several documents nests. -/
def depthOfElements : List Json → Nat
  | [] => 0
  | element :: rest => max (depth element) (depthOfElements rest)

/-- How deep the deepest of several members nests. -/
def depthOfMembers : List (String × Json) → Nat
  | [] => 0
  | (_, value) :: rest => max (depth value) (depthOfMembers rest)

end

end Json

/-- A cell as a document; dates and moments become their texts. -/
def Cell.toJson : Cell → Json
  | .null => .null
  | .bool value => .bool value
  | .int value => .int value
  | .float value => .float value
  | .text value => .text value
  | cell => .text cell.literal

end Tabular
