import Tabular.Fault

namespace Tabular

/-!
# Filter trees

A filter is a tree of groups and conditions, each with an identifier. Editing a tree gives a new
tree: an edit applies to every node with the given identifier that no other such node contains, and
a tree without such a node is left as it is.
-/

/-- How the members of a group are joined. -/
inductive Logic where
  | all
  | any
deriving DecidableEq, Inhabited

namespace Logic

/-- The name of a logic. -/
def name : Logic → String
  | .all => "AND"
  | .any => "OR"

/-- The logic that a value names. -/
def ofCell? : Cell → Option Logic
  | .text "AND" => some .all
  | .text "OR" => some .any
  | _ => none

/-- The logic that a value names; any other value is a fault. -/
def ofCell (value : Cell) : Outcome Logic :=
  match ofCell? value with
  | some logic => .ok logic
  | none => .error (.filter (.groupLogic value))

end Logic

/-- A test of one column. An unfinished condition has no column yet. -/
structure Condition where
  id : String
  field : Option String := some ""
  operator : Option String := some "is"
  value : Cell := .text ""
deriving DecidableEq, Inhabited

/-- The condition has no column. -/
def Condition.isUnfinished (condition : Condition) : Bool :=
  condition.field.getD "" == ""

/-- A node of a filter tree. -/
inductive FilterNode where
  | condition (condition : Condition)
  | group (id : String) (logic : Logic) (children : List FilterNode)
deriving Inhabited

namespace FilterNode

/-- The identifier of a node. -/
def id : FilterNode → String
  | .condition leaf => leaf.id
  | .group id _ _ => id

/-- The node is a group. -/
def isGroup : FilterNode → Bool
  | .condition _ => false
  | .group .. => true

/-- The node is a group without members. -/
def isEmptyGroup : FilterNode → Bool
  | .group _ _ [] => true
  | _ => false

/-! ## Looking up and editing -/

mutual

/-- The first node with an identifier, a group before its members. -/
def find? (wanted : String) : FilterNode → Option FilterNode
  | .condition leaf => if leaf.id = wanted then some (.condition leaf) else none
  | .group id logic children =>
      if id = wanted then some (.group id logic children) else findAmong? wanted children

/-- The first node with an identifier in a list of trees. -/
def findAmong? (wanted : String) : List FilterNode → Option FilterNode
  | [] => none
  | child :: rest =>
      match find? wanted child with
      | some found => some found
      | none => findAmong? wanted rest

end

mutual

/-- The tree with a node appended to every outermost group with the identifier. -/
def insert (parent : String) (added : FilterNode) : FilterNode → FilterNode
  | .condition leaf => .condition leaf
  | .group id logic children =>
      if id = parent then .group id logic (children ++ [added])
      else .group id logic (insertAmong parent added children)

/-- The trees with a node appended to every outermost group with the identifier. -/
def insertAmong (parent : String) (added : FilterNode) : List FilterNode → List FilterNode
  | [] => []
  | child :: rest => insert parent added child :: insertAmong parent added rest

end

mutual

/-- The tree without the nodes with an identifier below its root. -/
def remove (unwanted : String) : FilterNode → FilterNode
  | .condition leaf => .condition leaf
  | .group id logic children => .group id logic (removeAmong unwanted children)

/-- The trees without the nodes with an identifier. -/
def removeAmong (unwanted : String) : List FilterNode → List FilterNode
  | [] => []
  | child :: rest =>
      if child.id = unwanted then removeAmong unwanted rest
      else remove unwanted child :: removeAmong unwanted rest

end

/-- What is to become of a node. Only the parts that are present change. -/
structure Changes where
  /-- An identifier was asked for; identifiers never change. -/
  id : Option Cell := none
  field : Option (Option String) := none
  operator : Option (Option String) := none
  value : Option Cell := none
  logic : Option Cell := none
  children : Option (List FilterNode) := none
  /-- Names of parts that no node has. -/
  unknown : List String := []

namespace Changes

/-- The name, when the part is present. -/
def named {α : Type} (name : String) (part : Option α) : List String :=
  if part.isSome then [name] else []

/-- The names of the parts that a condition has. -/
def conditionNames (changes : Changes) : List String :=
  named "field" changes.field ++ named "operator" changes.operator ++ named "value" changes.value

/-- The names of the parts that a group has. -/
def groupNames (changes : Changes) : List String :=
  named "logic" changes.logic ++ named "children" changes.children

/-- Names in order; a name is a fault on a node that does not have the part. -/
def refuse (onGroup : Bool) (names : List String) : Outcome Unit :=
  if names.isEmpty then .ok ()
  else
    .error
      (.filter (.unknownFields onGroup (names.mergeSort fun left right => !(right < left))))

/-- A condition with the changes made. -/
def applyToCondition (changes : Changes) (condition : Condition) : Outcome Condition := do
  refuse false (changes.groupNames ++ changes.unknown)
  .ok
    { condition with
      field := changes.field.getD condition.field
      operator := changes.operator.getD condition.operator
      value := changes.value.getD condition.value }

/-- A group with the changes made. -/
def applyToGroup (changes : Changes) (id : String) (logic : Logic) (children : List FilterNode) :
    Outcome FilterNode := do
  refuse true (changes.conditionNames ++ changes.unknown)
  let logic ←
    match changes.logic with
    | some value => Logic.ofCell value
    | none => .ok logic
  .ok (.group id logic (changes.children.getD children))

end Changes

mutual

/-- The tree with the changes made to every outermost node with the identifier. -/
def updateNodes (wanted : String) (changes : Changes) : FilterNode → Outcome FilterNode
  | .condition leaf =>
      if leaf.id = wanted then (changes.applyToCondition leaf).map .condition
      else .ok (.condition leaf)
  | .group id logic children =>
      if id = wanted then changes.applyToGroup id logic children
      else (updateAmong wanted changes children).map fun updated => .group id logic updated

/-- The trees with the changes made to every outermost node with the identifier. -/
def updateAmong (wanted : String) (changes : Changes) :
    List FilterNode → Outcome (List FilterNode)
  | [] => .ok []
  | child :: rest => do
      let child ← updateNodes wanted changes child
      let rest ← updateAmong wanted changes rest
      .ok (child :: rest)

end

/-- The tree with the changes made; an identifier cannot be changed. -/
def update (wanted : String) (changes : Changes) (root : FilterNode) : Outcome FilterNode :=
  match changes.id with
  | some id => .error (.filter (.changedId id))
  | none => updateNodes wanted changes root

end FilterNode

end Tabular
