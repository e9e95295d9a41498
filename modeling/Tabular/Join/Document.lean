import Tabular.Join.Basic
import Tabular.Json.Shape

namespace Tabular.JoinSpec

/-!
# Joins as documents

How a stage of a join is written and read.
-/

/-- A stage of a join as a document. -/
def toJson (spec : JoinSpec) : Json :=
  .object
    [("left_table", .text spec.leftTable), ("left_column", .text spec.leftColumn),
      ("right_table", .text spec.rightTable), ("right_column", .text spec.rightColumn),
      ("join_type", .text spec.joinType.name)]

/-- The stage of a join that a document tells. -/
def ofJson (read : Json → Cell) (document : Json) : Outcome JoinSpec := do
  let joinType ←
    match document.member? "join_type" with
    | some name => JoinType.ofCell (read name)
    | none => .ok .inner
  return {
    leftTable := document.textAt "left_table"
    leftColumn := document.textAt "left_column"
    rightTable := document.textAt "right_table"
    rightColumn := document.textAt "right_column"
    joinType }

end Tabular.JoinSpec
