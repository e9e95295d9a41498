import Tabular.Join.Alias
import Tabular.Table.Basic
import Tabular.Text.Case

namespace Tabular

/-!
# Joining tables

A join is a list of stages. The first stage joins two tables, and every further stage joins what has
come out so far with another table. Columns are named by the alias of their table and their own
name. Rows match when the display texts of their key cells agree up to case, so a row may match
several. The side that is looked up is indexed by key.
-/

/-- Which rows without a match are kept. -/
inductive JoinType where
  | inner
  | left
  | right
  | full
deriving DecidableEq, Inhabited

namespace JoinType

/-- The name of a join type. -/
def name : JoinType → String
  | .inner => "inner"
  | .left => "left"
  | .right => "right"
  | .full => "full"

/-- All join types. -/
def all : List JoinType :=
  [.inner, .left, .right, .full]

/-- The join type that a value names; any other value is a fault. -/
def ofCell (value : Cell) : Outcome JoinType :=
  match all.find? fun joinType => Cell.text joinType.name == value with
  | some joinType => .ok joinType
  | none => .error (.config (.joinType value))

/-- Rows of the left side without a match are kept. -/
def keepsLeft (joinType : JoinType) : Bool :=
  joinType == .left || joinType == .full

end JoinType

/-- One stage of a join. -/
structure JoinSpec where
  leftTable : String
  leftColumn : String
  rightTable : String
  rightColumn : String
  joinType : JoinType := .inner
deriving DecidableEq

/-- The stage names the table on one of its sides. -/
def JoinSpec.mentions (spec : JoinSpec) (name : String) : Bool :=
  spec.leftTable == name || spec.rightTable == name

namespace Join

/-- What rows are matched by. -/
def keyOf (cell : Cell) : String :=
  Text.lower cell.display

/-- The name of a column under the alias of its table. -/
def columnName (shown column : String) : String :=
  shown ++ "." ++ column

/-- Rows with an order of columns. -/
structure Side where
  rows : List Row
  columns : List String

/-- The columns of a table under its alias. -/
def sideOf (shown : String) (table : Table) : Side where
  rows :=
    table.rows.map fun row =>
      Assoc.ofList
        (table.columns.map fun column => (columnName shown column, row.cell column))
  columns := table.columns.map (columnName shown)

/-- Rows by the key of a column, in their order. -/
def indexBy (column : String) (rows : List Row) : Assoc (List Row) :=
  rows.foldl
    (fun index row =>
      let key := keyOf (row.cell column)
      index.insert key ((index.find? key).getD [] ++ [row]))
    .empty

/-- The rows with a key. -/
def matching (index : Assoc (List Row)) (key : String) : List Row :=
  (index.find? key).getD []

/-- The cells of a row in some columns; all empty when there is no row. -/
def cellsOf (row : Option Row) (columns : List String) : List (String × Cell) :=
  columns.map fun column => (column, ((row.map fun row => row.cell column).getD .null))

/-- A row of the left side beside one of the right side; a column of both takes the right cell. -/
def combine (left right : Side) (leftRow rightRow : Option Row) : Row :=
  Assoc.ofList (cellsOf leftRow left.columns ++ cellsOf rightRow right.columns)

/-- The rows of a stage that keeps every row of the right side. -/
def rightRows (left right : Side) (leftKey rightKey : String) : List Row :=
  let index := indexBy leftKey left.rows
  right.rows.flatMap fun rightRow =>
    match matching index (keyOf (rightRow.cell rightKey)) with
    | [] => [combine left right none (some rightRow)]
    | partners => partners.map fun leftRow => combine left right (some leftRow) (some rightRow)

/-- The rows that a row of the left side gives. -/
def rowsForLeft (left right : Side) (leftKey : String) (joinType : JoinType)
    (index : Assoc (List Row)) (leftRow : Row) : List Row :=
  match matching index (keyOf (leftRow.cell leftKey)) with
  | [] => if joinType.keepsLeft then [combine left right (some leftRow) none] else []
  | partners => partners.map fun rightRow => combine left right (some leftRow) (some rightRow)

/-- The keys of the rows of the left side that have a match. -/
def matchedKeys (left : Side) (leftKey : String) (index : Assoc (List Row)) : List String :=
  (left.rows.map fun row => keyOf (row.cell leftKey)).filter index.contains

/-- The rows of one stage. -/
def stageRows (left right : Side) (leftKey rightKey : String) (joinType : JoinType) : List Row :=
  match joinType with
  | .right => rightRows left right leftKey rightKey
  | joinType =>
      let index := indexBy rightKey right.rows
      let joined := left.rows.flatMap (rowsForLeft left right leftKey joinType index)
      if joinType = .full then
        let matched := matchedKeys left leftKey index
        let alone :=
          right.rows.filter fun row => !matched.contains (keyOf (row.cell rightKey))
        joined ++ alone.map fun row => combine left right none (some row)
      else joined

/-- Two sides joined by a stage: the columns of the left side first. -/
def joinSides (left right : Side) (leftKey rightKey : String) (joinType : JoinType) : Side where
  rows := stageRows left right leftKey rightKey joinType
  columns := left.columns ++ right.columns.filter fun column => !left.columns.contains column

/-- The tables that can be joined, with their aliases. -/
structure Sources where
  tables : Assoc Table
  aliases : Assoc String

namespace Sources

/-- The alias of a table. -/
def aliasOf (sources : Sources) (name : String) : String :=
  Alias.nameIn sources.aliases name

/-- The side of a table that is loaded. -/
def side (sources : Sources) (name : String) : Side :=
  match sources.tables.find? name with
  | some table => sideOf (sources.aliasOf name) table
  | none => ⟨[], []⟩

/-- A column of a table under its alias. -/
def column (sources : Sources) (table column : String) : String :=
  columnName (sources.aliasOf table) column

/-- The first stage. -/
def firstStage (sources : Sources) (spec : JoinSpec) : Side :=
  joinSides (sources.side spec.leftTable) (sources.side spec.rightTable)
    (sources.column spec.leftTable spec.leftColumn)
    (sources.column spec.rightTable spec.rightColumn) spec.joinType

/--
A further stage. Its left column may also be given by the full name that it has in what has come out
so far.
-/
def nextStage (sources : Sources) (left : Side) (spec : JoinSpec) : Side :=
  let named := sources.column spec.leftTable spec.leftColumn
  let leftKey := if left.columns.contains named then named else spec.leftColumn
  joinSides left (sources.side spec.rightTable) leftKey
    (sources.column spec.rightTable spec.rightColumn) spec.joinType

/-- The tables that the stages name, the left one of each stage first. -/
def namesOf (specs : List JoinSpec) : List String :=
  specs.flatMap fun spec => [spec.leftTable, spec.rightTable]

/-- The names without repetitions, in order. -/
def sortedNames (names : List String) : List String :=
  (names.eraseDups).mergeSort fun left right => !(right < left)

/-- The tables that the stages name and that are not loaded, in order. -/
def missing (sources : Sources) (specs : List JoinSpec) : List String :=
  sortedNames ((namesOf specs).filter fun name => !sources.tables.contains name)

/--
The descriptions of the columns of the named tables, as `find` finds them, each under its alias.
-/
def describe {m : Type → Type} [Monad m] {α : Type} (sources : Sources)
    (find : String → Table → m (Assoc α)) (names : List String) : m (Assoc α) :=
  names.foldlM
    (fun described name =>
      match sources.tables.find? name with
      | some table => do
          let map ← find name table
          return map.entries.foldl
            (fun described entry => described.insert (sources.column name entry.1) entry.2)
            described
      | none => return described)
    .empty

end Sources

/-- The name of a joined table. -/
def joinedName : String := "joined"

/-- The rows and columns of a join whose tables are all loaded. -/
def chain (sources : Sources) : List JoinSpec → Side
  | [] => ⟨[], []⟩
  | first :: rest => rest.foldl sources.nextStage (sources.firstStage first)

end Join

/-- A joined table, and the tables that were named but are not loaded. -/
structure Joined where
  table : Table
  missing : List String

namespace Join

/-- The result without rows that stands for a join without stages. -/
def withoutStages : Table :=
  Table.ofRows (some joinedName) []

/-- The result without rows and columns that stands for a join with tables that are not loaded. -/
def withoutTables : Table where
  name := some joinedName
  columns := []
  rows := []
  typeSource := .given .empty
  kindSource := .given .empty

/-- The result of a join whose tables are all loaded, where the columns are described as given. -/
def joinedTable (sources : Sources) (specs : List JoinSpec) (types : Assoc ColumnType)
    (kinds : Assoc SmartTypeInfo) : Table :=
  let joined := chain sources specs
  { name := some joinedName
    columns := joined.columns
    rows := joined.rows
    typeSource := .given types
    kindSource := .given kinds }

end Join

/--
The join of tables, whose columns are described as the two arguments find. Without stages the result
is empty, and so it is when a table is named that is not loaded.
-/
def performJoinWith {m : Type → Type} [Monad m] (findTypes : String → Table → m (Assoc ColumnType))
    (findKinds : String → Table → m (Assoc SmartTypeInfo)) (sources : Join.Sources)
    (specs : List JoinSpec) : m Joined := do
  let missing := sources.missing specs
  if specs.isEmpty then return { table := Join.withoutStages, missing := [] }
  else if !missing.isEmpty then return { table := Join.withoutTables, missing }
  else
    let names := Join.Sources.namesOf specs
    let types ← sources.describe findTypes names
    let kinds ← sources.describe findKinds names
    return { table := Join.joinedTable sources specs types kinds, missing := [] }

/-- The join of tables. -/
def performJoin (settings : Settings) (sources : Join.Sources) (specs : List JoinSpec) :
    Outcome Joined :=
  performJoinWith (fun _ table => table.types settings) (fun _ table => table.smartTypes settings)
    sources specs

/-- What is noted when tables are named that are not loaded. -/
def Joined.warnings (joined : Joined) : List String :=
  if joined.missing.isEmpty then []
  else ["Join references tables that are not loaded: " ++ ", ".intercalate joined.missing]

end Tabular
