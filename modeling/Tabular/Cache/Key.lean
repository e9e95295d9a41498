import Tabular.Cell.Value

namespace Tabular

/-!
# Keys by value

A key names an operation, the versions of what it works on, and a parameter, which is a value or a
list of values. Keys agree when their parts are the same values, so the integer one, the binary64
number one and true make the same key.
-/

/-- The parameter of a request. -/
inductive KeyParameter where
  | single (value : Cell)
  | several (values : List Cell)

namespace KeyParameter

/-- Two parameters are the same. -/
def same : KeyParameter → KeyParameter → Bool
  | .single left, .single right => left.sameValue right
  | .several left, .several right => Cell.sameValues left right
  | _, _ => false

end KeyParameter

/-- What a value is requested by. -/
structure RequestKey where
  operation : String
  versions : List Cell
  parameter : KeyParameter

/-- Two keys are the same. -/
def RequestKey.same (left right : RequestKey) : Bool :=
  left.operation == right.operation &&
    Cell.sameValues left.versions right.versions &&
    left.parameter.same right.parameter

instance : BEq RequestKey := ⟨RequestKey.same⟩

end Tabular
