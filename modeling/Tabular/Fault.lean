import Tabular.Cell

namespace Tabular

/-!
# Faults

Everything that can go wrong, as causes. Malformed data never is a fault of its own: it degrades to
empty results, and only arithmetic that leaves its range stops a computation. Faults of
configuration carry what they complain about, and one function words each of them.
-/

/-- What is wrong with the configuration of a view. -/
inductive ConfigFault where
  | aggregation (name : Cell)
  | joinType (name : Cell)
  | sortDirection (name : Cell)
  | cleaningOperation (name : Cell)
  | anonymization (method : Cell) (column : Option String)
  | other (message : String) (field : Cell) (value : Cell)
deriving DecidableEq

/-- What is wrong with a filter. -/
inductive FilterFault where
  | unknownOperator (operator : Cell)
  | operatorForType (operator : Cell) (columnType : String) (field : String)
  | groupLogic (logic : Cell)
  | nodeType (name : Cell)
  | changedId (id : Cell)
  | unknownFields (onGroup : Bool) (names : List String)
  | missingGroup (id : String)
  | missingNode (id : String)
  | rootCondition
  | other (message : String) (field : Cell) (value : Cell)
deriving DecidableEq

/-- A cause of failure. -/
inductive Fault where
  /-- A view configuration is wrong. -/
  | config (cause : ConfigFault)
  /-- A filter is wrong. -/
  | filter (cause : FilterFault)
  /-- A table is named that is not loaded. -/
  | tableNotLoaded (name : String)
  /-- A failure with its own words and context. -/
  | general (message : String) (context : List (String × Cell))
  /-- A number leaves the range of its format. -/
  | overflow
  /-- A number that is none where an integer is needed. -/
  | notANumber
  /-- A pattern that contradicts itself. -/
  | contradictoryPattern
  /-- A value of the wrong kind. -/
  | wrongKind
  /-- A position outside a list. -/
  | outOfRange
  /-- A structured document has a scalar where an object is needed. -/
  | notAnObject
deriving DecidableEq

namespace ConfigFault

/-- The wording of a configuration fault. -/
def message : ConfigFault → String
  | .aggregation name => s!"Unknown aggregation function '{name.literal}'"
  | .joinType name => s!"Unknown join type '{name.literal}'"
  | .sortDirection name => s!"Unknown sort direction '{name.literal}'"
  | .cleaningOperation name => s!"Unknown cleaning operation '{name.literal}'"
  | .anonymization method column =>
      s!"Unknown anonymization method '{method.literal}'" ++
        (match column with
        | some name => if name = "" then "" else s!" for column '{name}'"
        | none => "")
  | .other message _ _ => message

/-- The configuration field that is wrong. -/
def field : ConfigFault → Cell
  | .aggregation _ => .text "agg_func"
  | .joinType _ => .text "join_type"
  | .sortDirection _ => .text "direction"
  | .cleaningOperation _ => .text "operation"
  | .anonymization .. => .text "method"
  | .other _ field _ => field

/-- The value that is wrong. -/
def value : ConfigFault → Cell
  | .aggregation name => name
  | .joinType name => name
  | .sortDirection name => name
  | .cleaningOperation name => name
  | .anonymization method _ => method
  | .other _ _ value => value

end ConfigFault

namespace FilterFault

/-- The wording of a filter fault. -/
def message : FilterFault → String
  | .unknownOperator operator => s!"Unknown filter operator '{operator.literal}'"
  | .operatorForType operator columnType field =>
      s!"Operator '{operator.literal}' does not apply to {columnType} column '{field}'"
  | .groupLogic logic => s!"Unknown group logic '{logic.literal}'"
  | .nodeType name => s!"Unknown filter node type '{name.literal}'"
  | .changedId _ => "A node id cannot be changed"
  | .unknownFields onGroup names =>
      (if onGroup then "Unknown FilterGroup" else "Unknown FilterCondition") ++ " field(s): " ++
        ", ".intercalate names
  | .missingGroup id => s!"No filter group with id '{id}'"
  | .missingNode id => s!"No filter node with id '{id}'"
  | .rootCondition => "The filter root must be a group"
  | .other message _ _ => message

/-- The field of the node that is wrong. -/
def field : FilterFault → Cell
  | .unknownOperator _ => .text "operator"
  | .operatorForType .. => .text "operator"
  | .groupLogic _ => .text "logic"
  | .nodeType _ => .text "type"
  | .changedId _ => .text "id"
  | .unknownFields _ names => .text (names.headD "")
  | .missingGroup _ => .text "parent_id"
  | .missingNode _ => .text "node_id"
  | .rootCondition => .text "type"
  | .other _ field _ => field

/-- The value that is wrong. -/
def value : FilterFault → Cell
  | .unknownOperator operator => operator
  | .operatorForType operator _ _ => operator
  | .groupLogic logic => logic
  | .nodeType name => name
  | .changedId id => id
  | .unknownFields .. => .null
  | .missingGroup id => .text id
  | .missingNode id => .text id
  | .rootCondition => .text "condition"
  | .other _ _ value => value

end FilterFault

namespace Fault

/-- A field and a value as context: an empty field and a missing value are left out. -/
def fieldContext (field value : Cell) : List (String × Cell) :=
  (if field = .null ∨ field = .text "" then [] else [("field", field)]) ++
    (if value = .null then [] else [("value", value)])

/-- The wording of a fault, without its context. -/
def message : Fault → String
  | .config cause => cause.message
  | .filter cause => cause.message
  | .tableNotLoaded name => s!"Table '{name}' is not loaded"
  | .general message _ => message
  | .overflow => "number out of range"
  | .notANumber => "not a number"
  | .contradictoryPattern => "contradictory pattern"
  | .wrongKind => "value of the wrong kind"
  | .outOfRange => "position out of range"
  | .notAnObject => "not an object"

/-- The facts that go with a fault. -/
def context : Fault → List (String × Cell)
  | .config cause => fieldContext cause.field cause.value
  | .filter cause => fieldContext cause.field cause.value
  | .tableNotLoaded name => [("table", .text name)]
  | .general _ context => context
  | _ => []

/-- The wording of a fault followed by its context, when there is any. -/
def text (fault : Fault) : String :=
  match fault.context with
  | [] => fault.message
  | context =>
      fault.message ++ " (Context: " ++
        ", ".intercalate (context.map fun entry => s!"{entry.1}={entry.2.literal}") ++ ")"

end Fault

/-- A computation that may fail. -/
abbrev Outcome := Except Fault

end Tabular
