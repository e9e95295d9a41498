import Tabular.Cell.Instant
import Tabular.Filter.Node
import Tabular.Filter.Operator
import Tabular.Pattern.Matcher
import Tabular.Pattern.Reader
import Tabular.Table.Basic

namespace Tabular

/-!
# Evaluating filters

Whether a row satisfies a filter. Texts are compared by their display forms, in lower case unless
case counts; numbers and instants only match when both sides are such. A pattern that is none
matches nothing, and each time it is met it is counted. Members of a group are only looked at until
the answer is settled.
-/

/-- An answer, and how many invalid patterns were met on the way to it. -/
structure Verdict where
  holds : Bool
  invalidPatterns : Nat := 0
deriving DecidableEq

namespace Verdict

/-- The same answer after further invalid patterns. -/
def after (earlier : Verdict) (verdict : Verdict) : Verdict :=
  { verdict with invalidPatterns := earlier.invalidPatterns + verdict.invalidPatterns }

end Verdict

/-- The pieces between commas, trimmed. -/
def commaPieces (text : String) : List String :=
  (Text.split ',' text).map Text.trim

/-- A text in the form in which it is compared. -/
def folded (caseSensitive : Bool) (text : String) : String :=
  if caseSensitive then text else Text.lower text

/-- A written pattern matches somewhere in a text. -/
def matchesPattern (caseSensitive : Bool) (text pattern : String) : Outcome Verdict :=
  match Pattern.read { ignoreCase := !caseSensitive } pattern with
  | .ok node => .ok { holds := node.search text }
  | .error .malformed => .ok { holds := false, invalidPatterns := 1 }
  | .error .countTooLarge => .error .overflow
  | .error _ => .error .contradictoryPattern

namespace TextOperator

/--
The comparison of two texts in the form in which they are compared; `raw` is the second as given.
-/
def holds (operator : TextOperator) (caseSensitive : Bool) (left right raw : String) : Bool :=
  let listed := ((commaPieces raw).map (folded caseSensitive)).contains left
  match operator with
  | .is => left == right
  | .isNot => left != right
  | .contains => Text.occursIn right.toList left.toList
  | .doesNotContain => !Text.occursIn right.toList left.toList
  | .startsWith => right.toList.isPrefixOf left.toList
  | .endsWith => right.toList.isSuffixOf left.toList
  | .isOneOf => listed
  | .isNotOneOf => !listed
  | .matchesPattern => false

/-- The comparison of the display texts of two cells. -/
def compare (operator : TextOperator) (caseSensitive : Bool) (cell value : Cell) :
    Outcome Verdict :=
  match operator with
  | .matchesPattern => Tabular.matchesPattern caseSensitive cell.display value.display
  | operator =>
      .ok
        { holds :=
            operator.holds caseSensitive (folded caseSensitive cell.display)
              (folded caseSensitive value.display) value.display }

end TextOperator

/-- The comparison of two numbers. -/
def NumberOperator.holds (operator : NumberOperator) (left right : Binary64) : Bool :=
  match operator with
  | .equal => left.eqv right
  | .notEqual => !left.eqv right
  | .less => left.lt right
  | .greater => right.lt left
  | .atMost => left.le right
  | .atLeast => right.le left

/-- The comparison of two cells as numbers. -/
def NumberOperator.compare (operator : NumberOperator) (cell value : Cell) : Outcome Verdict := do
  let left ← cell.number?
  let right ← value.number?
  match left, right with
  | some left, some right => .ok { holds := operator.holds left right }
  | _, _ => .ok { holds := false }

/-- The comparison of two instants. -/
def DateOperator.holds (operator : DateOperator) (left right : Calendar.Instant) : Bool :=
  match operator with
  | .isBefore => left.nanoseconds < right.nanoseconds
  | .isAfter => right.nanoseconds < left.nanoseconds

/-- The comparison of two cells as instants. -/
def DateOperator.compare (operator : DateOperator) (cell value : Cell) : Verdict :=
  match cell.instant?, value.instant? with
  | some left, some right => { holds := operator.holds left right }
  | _, _ => { holds := false }

namespace Condition

/-- The cell of a row that a condition looks at. -/
def cellOf (condition : Condition) (row : Row) : Cell :=
  match condition.field with
  | some field => row.cell field
  | none => .null

/-- A row satisfies a condition. An unfinished condition does not restrict. -/
def evaluate (condition : Condition) (caseSensitive : Bool) (row : Row) : Outcome Verdict :=
  let cell := condition.cellOf row
  match condition.operator.bind Operator.ofName? with
  | some .isEmpty => .ok { holds := cell.isBlank }
  | some .isNotEmpty => .ok { holds := !cell.isBlank }
  | operator =>
      if condition.isUnfinished then .ok { holds := true }
      else
        match operator with
        | some (.onText operator) => operator.compare caseSensitive cell condition.value
        | some (.onNumber operator) => operator.compare cell condition.value
        | some (.onDate operator) => .ok (operator.compare cell condition.value)
        | _ => .ok { holds := false }

end Condition

namespace FilterNode

mutual

/-- A row satisfies a filter tree. A group without members is satisfied by every row. -/
def evaluate (caseSensitive : Bool) (row : Row) : FilterNode → Outcome Verdict
  | .condition leaf => leaf.evaluate caseSensitive row
  | .group _ logic children =>
      match children, logic with
      | [], _ => .ok { holds := true }
      | children, .all => evaluateAll caseSensitive row children
      | children, .any => evaluateAny caseSensitive row children

/-- A row satisfies every one of several trees. -/
def evaluateAll (caseSensitive : Bool) (row : Row) : List FilterNode → Outcome Verdict
  | [] => .ok { holds := true }
  | child :: rest => do
      let verdict ← evaluate caseSensitive row child
      if verdict.holds then return verdict.after (← evaluateAll caseSensitive row rest)
      else return verdict

/-- A row satisfies one of several trees. -/
def evaluateAny (caseSensitive : Bool) (row : Row) : List FilterNode → Outcome Verdict
  | [] => .ok { holds := false }
  | child :: rest => do
      let verdict ← evaluate caseSensitive row child
      if verdict.holds then return verdict
      else return verdict.after (← evaluateAny caseSensitive row rest)

end

end FilterNode

/-- The rows that pass a test, and how many invalid patterns were met. -/
def keepRows (test : Row → Outcome Verdict) : List Row → Outcome (List Row × Nat)
  | [] => .ok ([], 0)
  | row :: rest => do
      let verdict ← test row
      let (kept, invalidPatterns) ← keepRows test rest
      let kept := if verdict.holds then row :: kept else kept
      return (kept, verdict.invalidPatterns + invalidPatterns)

/-- The table of the rows that satisfy a filter, and how many invalid patterns were met. -/
def filterRows (caseSensitive : Bool) (node : FilterNode) (table : Table) :
    Outcome (Table × Nat) := do
  let (kept, invalidPatterns) ← keepRows (node.evaluate caseSensitive) table.rows
  return (table.derive kept, invalidPatterns)

end Tabular
