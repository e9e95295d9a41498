namespace Tabular

/-!
# Issues of documents

What can be wrong with a document that has to have a given shape. An issue says what was expected
and at which place of the document.
-/

/-- What a part of a document is not. -/
inductive Mismatch where
  /-- The part is not there. -/
  | absent
  /-- The bytes of the document are those of no text. -/
  | undecodable
  /-- The document is no document at all. -/
  | unreadable
  | notText
  | textTooShort
  | notWhole
  | notWholeText
  | notWholeFloat
  | notFinite
  | notTruth
  | notTruthText
  | notNumberText
  | notList
  | notObject
  /-- An object with given members is expected. -/
  | notMembers
  /-- One of some given texts is expected. -/
  | notChoice
deriving DecidableEq

/-- The name of a mismatch. -/
def Mismatch.name : Mismatch → String
  | .absent => "missing"
  | .undecodable => "undecodable"
  | .unreadable => "json_invalid"
  | .notText => "string_type"
  | .textTooShort => "string_too_short"
  | .notWhole => "int_type"
  | .notWholeText => "int_parsing"
  | .notWholeFloat => "int_from_float"
  | .notFinite => "finite_number"
  | .notTruth => "bool_type"
  | .notTruthText => "bool_parsing"
  | .notNumberText => "float_parsing"
  | .notList => "list_type"
  | .notObject => "dict_type"
  | .notMembers => "model_attributes_type"
  | .notChoice => "literal_error"

/-- One step into a document. -/
inductive PathStep where
  | key (name : String)
  | index (place : Nat)
deriving DecidableEq

/-- Something wrong at a place of a document. -/
structure Issue where
  mismatch : Mismatch
  path : List PathStep := []
deriving DecidableEq

/-- The issue, seen from one step further out. -/
def Issue.under (step : PathStep) (issue : Issue) : Issue :=
  { issue with path := step :: issue.path }

/-- A value, or everything that is wrong. -/
abbrev Checked := Except (List Issue)

namespace Checked

variable {α β : Type}

/-- A single issue at the place that is looked at. -/
def fail (mismatch : Mismatch) : Checked α :=
  .error [{ mismatch }]

/-- A checked value one step into a document. -/
def under (step : PathStep) : Checked α → Checked α
  | .ok value => .ok value
  | .error issues => .error (issues.map (Issue.under step))

/-- Two values, or the issues of both. -/
def both : Checked α → Checked β → Checked (α × β)
  | .ok left, .ok right => .ok (left, right)
  | .error left, .error right => .error (left ++ right)
  | .error issues, .ok _ => .error issues
  | .ok _, .error issues => .error issues

/-- All values, or the issues of all. -/
def all : List (Checked α) → Checked (List α)
  | [] => .ok []
  | first :: rest => (both first (all rest)).map fun pair => pair.1 :: pair.2

end Checked

end Tabular
