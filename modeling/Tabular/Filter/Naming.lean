import Tabular.Filter.Node

namespace Tabular

/-!
# Naming filter nodes

New nodes get identifiers that have not been drawn before. Drawn identifiers are numbered and start
with a character that is reserved for private use, so that they are told apart from given ones.
-/

/-- A computation that draws fresh numbers for identifiers. -/
abbrev Naming := StateT Nat Outcome

/-- The identifier with a number. -/
def drawnId (number : Nat) : String :=
  s!"\ue000n{number}\ue001"

/-- An identifier that has not been drawn before. -/
def freshId : Naming String := do
  let number ← get
  set (number + 1)
  return drawnId number

namespace FilterNode

/-- A new group without members that joins them by the logic that a value names. -/
def newGroup (logic : Cell) : Naming FilterNode := do
  let logic ← Logic.ofCell logic
  return .group (← freshId) logic []

/-- A new root: a group without members, which every row satisfies. -/
def newRoot : Naming FilterNode := do
  return .group (← freshId) .all []

/-- A new condition. -/
def newCondition (field operator : Option String) (value : Cell) : Naming Condition := do
  return { id := ← freshId, field, operator, value }

end FilterNode

end Tabular
