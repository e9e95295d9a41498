import Tabular.Filter.Node
import Tabular.Filter.Operator
import Tabular.Typing.ColumnType

namespace Tabular

/-!
# Validating filters

A condition is valid when its operator exists and, unless it is unfinished or only asks for the
presence of a value, is offered for the type of its column. A column without a type counts as text.
-/

/-- An optional text as a cell. -/
def optionalCell : Option String → Cell
  | some text => .text text
  | none => .null

namespace Condition

/-- The type of the column of a condition. -/
def columnType (condition : Condition) (types : Assoc ColumnType) : ColumnType :=
  (condition.field.bind types.find?).getD .string

/-- The condition is valid for columns of the given types. -/
def validate (condition : Condition) (types : Assoc ColumnType) : Outcome Unit :=
  match condition.operator.bind Operator.ofName? with
  | none => .error (.filter (.unknownOperator (optionalCell condition.operator)))
  | some operator =>
      let columnType := condition.columnType types
      if condition.isUnfinished || Operator.forPresence.contains operator ||
          (Operator.offeredFor columnType).contains operator then .ok ()
      else
        .error
          (.filter
            (.operatorForType (optionalCell condition.operator) columnType.name
              (condition.field.getD "")))

end Condition

namespace FilterNode

mutual

/-- Every condition of a tree is valid. -/
def validate (types : Assoc ColumnType) : FilterNode → Outcome Unit
  | .condition leaf => leaf.validate types
  | .group _ _ children => validateAll types children

/-- Every condition of several trees is valid. -/
def validateAll (types : Assoc ColumnType) : List FilterNode → Outcome Unit
  | [] => .ok ()
  | child :: rest => do
      validate types child
      validateAll types rest

end

end FilterNode

end Tabular
