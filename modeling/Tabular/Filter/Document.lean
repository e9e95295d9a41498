import Tabular.Filter.Naming
import Tabular.Json.Shape
import Tabular.Json.Writer

namespace Tabular

/-!
# Filter trees as documents

A filter tree is read from a document in two steps: the document gives a draft, and the draft tells
the tree.

The parts of a draft are documents themselves: whatever a document has for an identifier, a column,
an operator or a value is kept as it is. Parts that a document leaves out have defaults, and a node
without an identifier gets a fresh one, a group before its members. Only the type of a node and the
logic of a group are looked at.

The identifiers, columns and operators of a tree are texts and its values are cells, so parts of a
draft that are neither are told by their texts.
-/

/-- A node of a filter tree with the parts that a document has for it. -/
inductive FilterDraft where
  | condition (id field operator value : Json)
  | group (id : Json) (logic : Logic) (children : List FilterDraft)
deriving Inhabited

/-- The logic that a document names; a fault tells any other document as `readCell` reads it. -/
def Logic.ofJson (readCell : Json → Cell) : Json → Outcome Logic
  | .text name => ofCell (.text name)
  | document => .error (.filter (.groupLogic (readCell document)))

/-! ## The members of nodes -/

namespace Json

/-- The type of a node with the members; a node that does not tell it is a group. -/
def nodeType (members : List (String × Json)) : Json :=
  (lastMember? "type" members).getD (.text "group")

/-- The logic of a group with the members; a group that does not tell it wants all of its own. -/
def nodeLogic (members : List (String × Json)) : Json :=
  (lastMember? "logic" members).getD (.text "AND")

/-- The member with a key, unless it is void. -/
def filledMember? (key : String) (members : List (String × Json)) : Option Json :=
  (lastMember? key members).filter fun found => !found.isVoid

/-- The value of a condition with the members; without one it is the empty text. -/
def nodeValue (members : List (String × Json)) : Json :=
  match lastMember? "value" members with
  | none | some .null => .text ""
  | some value => value

/-- What stands below a group with the members; a void member stands for nothing. -/
def childDocuments (members : List (String × Json)) : Outcome (List Json) :=
  match filledMember? "children" members with
  | none => .ok []
  | some (.array children) => .ok children
  | some (.object entries) => .ok (entries.map fun entry => .text entry.1)
  | some (.text letters) => .ok (letters.toList.map fun letter => .text (String.singleton letter))
  | some _ => .error .wrongKind

end Json

/-! ## Drafts and their documents -/

namespace FilterDraft

mutual

/-- A draft as a document. -/
def toJson : FilterDraft → Json
  | .condition id field operator value =>
      .object
        [("id", id), ("type", .text "condition"), ("field", field), ("operator", operator),
          ("value", value)]
  | .group id logic children =>
      .object
        [("id", id), ("type", .text "group"), ("logic", .text logic.name),
          ("children", .array (allToJson children))]

/-- Drafts as documents. -/
def allToJson : List FilterDraft → List Json
  | [] => []
  | child :: rest => toJson child :: allToJson rest

end

/-- The identifier of a node with the members, or a fresh one. -/
def readId (members : List (String × Json)) : Naming Json :=
  match Json.filledMember? "id" members with
  | some found => return found
  | none => return .text (← freshId)

/-- The condition with the members. -/
def readCondition (id : Json) (members : List (String × Json)) : FilterDraft :=
  .condition id ((Json.filledMember? "field" members).getD (.text ""))
    ((Json.filledMember? "operator" members).getD (.text "is")) (Json.nodeValue members)

/--
The draft that a document gives, where `fuel` bounds how deep it nests. Faults tell types and logics
as `readCell` reads them.
-/
def readWithin (readCell : Json → Cell) : Nat → Json → Naming FilterDraft
  | 0, _ => throw .notAnObject
  | fuel + 1, document => do
      match document with
      | .object members =>
          let id ← readId members
          match Json.nodeType members with
          | .text "group" =>
              let logic ← Logic.ofJson readCell (Json.nodeLogic members)
              let documents ← Json.childDocuments members
              let children ← documents.mapM (readWithin readCell fuel)
              return .group id logic children
          | .text "condition" => return readCondition id members
          | nodeType => throw (.filter (.nodeType (readCell nodeType)))
      | _ => throw .notAnObject

/-- The draft that a document gives. -/
def ofJson (readCell : Json → Cell) (document : Json) : Naming FilterDraft :=
  readWithin readCell (document.depth + 1) document

end FilterDraft

namespace FilterNode

/-! ## Trees and their drafts -/

mutual

/-- The draft of a tree, with its values as `writeCell` writes them. -/
def draftWith (writeCell : Cell → Json) : FilterNode → FilterDraft
  | .condition leaf =>
      .condition (.text leaf.id) (.ofOption .text leaf.field) (.ofOption .text leaf.operator)
        (writeCell leaf.value)
  | .group id logic children => .group (.text id) logic (draftsWith writeCell children)

/-- The drafts of trees, with their values as `writeCell` writes them. -/
def draftsWith (writeCell : Cell → Json) : List FilterNode → List FilterDraft
  | [] => []
  | child :: rest => draftWith writeCell child :: draftsWith writeCell rest

end

mutual

/-- The tree that a draft tells, with its values as `readCell` reads them. -/
def ofDraft (readCell : Json → Cell) : FilterDraft → FilterNode
  | .condition id field operator value =>
      .condition
        { id := id.asText
          field := some field.asText
          operator := some operator.asText
          value := readCell value }
  | .group id logic children => .group id.asText logic (ofDrafts readCell children)

/-- The trees that drafts tell, with their values as `readCell` reads them. -/
def ofDrafts (readCell : Json → Cell) : List FilterDraft → List FilterNode
  | [] => []
  | child :: rest => ofDraft readCell child :: ofDrafts readCell rest

end

/-! ## Trees and their documents -/

/-- A filter tree as a document, with cells as `writeCell` writes them. -/
def toJsonWith (writeCell : Cell → Json) (node : FilterNode) : Json :=
  (node.draftWith writeCell).toJson

/-- A filter tree as a document. -/
def toJson (node : FilterNode) : Json :=
  node.toJsonWith Cell.toJson

/-- The filter tree that a document tells, with cells as `readCell` reads them. -/
def ofJsonWith (readCell : Json → Cell) (document : Json) : Naming FilterNode :=
  ofDraft readCell <$> FilterDraft.ofJson readCell document

/-- The filter tree that a document tells. -/
def ofJson (document : Json) : Naming FilterNode :=
  ofJsonWith Json.asCell document

/-! ## Parts of trees -/

/-- The cell of a document that may be missing, as `readCell` reads it. -/
def scalar (readCell : Json → Cell) (document : Option Json) (default : Cell) : Cell :=
  match document with
  | none => default
  | some found => readCell found

/-- The names of the parts that a node can have. -/
def partNames : List String :=
  ["id", "field", "operator", "value", "logic", "children"]

/-- What a document tells to become of a node. -/
def Changes.ofJsonWith (readCell : Json → Cell) (document : Json) : Naming Changes := do
  let children ←
    match document.member? "children" with
    | some children => some <$> children.elements.mapM (FilterNode.ofJsonWith readCell)
    | none => pure none
  return {
    id := (document.member? "id").map readCell
    field := (document.member? "field").map Json.toText?
    operator := (document.member? "operator").map Json.toText?
    value := (document.member? "value").map readCell
    logic := (document.member? "logic").map readCell
    children
    unknown := (document.members.map Prod.fst).filter fun name => !partNames.contains name }

/-- The new group that a document tells. -/
def newGroupOfJson (readCell : Json → Cell) (document : Json) : Naming FilterNode :=
  newGroup (scalar readCell (document.member? "logic") (.text "AND"))

/-- The name of a part of a document that may be nothing, or a default when it is missing. -/
def nameAt (document : Json) (key default : String) : Option String :=
  match document.member? key with
  | some name => name.toText?
  | none => some default

/-- The new condition that a document tells. -/
def newConditionOfJson (readCell : Json → Cell) (document : Json) : Naming Condition :=
  newCondition (nameAt document "field" "") (nameAt document "operator" "is")
    (scalar readCell (document.member? "value") (.text ""))

end FilterNode

end Tabular
