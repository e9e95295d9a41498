import Tabular.Join.Basic
import Tabular.Proofs.Assoc

namespace Tabular

open List

/-!
# Joins as nested loops

A second account of joins, without an index: every stage walks the rows of one side, and for each of
them all rows of the other side. A line is a list of named cells, and lines stand beside one another
by appending them. The main statement is that a join whose column names are pairwise distinct has
exactly the lines that the nested loops give, in the same order.
-/

namespace Join

/-!
## What an index of rows holds

An index by a column holds, under every key, exactly the rows with that key in their order. So
looking a key up is the same as walking all rows and keeping those with the key.
-/

/-- The rows whose cell in a column has a key, in their order. -/
def rowsWithKey
    (column key : String)
    (rows : List Row) :
    List Row :=
  rows.filter fun row => keyOf (row.cell column) == key

/-- One more row is found under its own key, after the rows found before it. -/
theorem matching_insert
    (index : Assoc (List Row))
    (key asked : String)
    (row : Row) :
    matching (index.insert key ((index.find? key).getD [] ++ [row])) asked =
      matching index asked ++ if key = asked then [row] else [] := by
  unfold matching
  rw [Assoc.find?_insert]
  by_cases same : key = asked
  · subst same
    simp
  · simp [same]

theorem matching_foldl_insert
    (column key : String)
    (rows : List Row)
    (index : Assoc (List Row)) :
    matching
        (rows.foldl
          (fun index row =>
            index.insert (keyOf (row.cell column))
              ((index.find? (keyOf (row.cell column))).getD [] ++ [row]))
          index)
        key =
      matching index key ++ rowsWithKey column key rows := by
  induction rows generalizing index with
  | nil =>
      simp [rowsWithKey]
  | cons row rest inductionHypothesis =>
      rw [foldl_cons, inductionHypothesis, matching_insert]
      by_cases same : keyOf (row.cell column) = key <;>
        simp [rowsWithKey, same]

/-- An index by a column finds the rows with a key, in their order. -/
theorem matching_indexBy
    (column key : String)
    (rows : List Row) :
    matching (indexBy column rows) key =
      rowsWithKey column key rows := by
  have found :=
    matching_foldl_insert column key rows (.empty)
  simpa [indexBy, matching] using found

theorem contains_foldl_insert
    (column key : String)
    (rows : List Row)
    (index : Assoc (List Row)) :
    (rows.foldl
        (fun index row =>
          index.insert (keyOf (row.cell column))
            ((index.find? (keyOf (row.cell column))).getD [] ++ [row]))
        index).contains key =
      (index.contains key ||
        rows.any fun row => keyOf (row.cell column) == key) := by
  induction rows generalizing index with
  | nil =>
      simp
  | cons row rest inductionHypothesis =>
      rw [foldl_cons, inductionHypothesis, any_cons]
      simp only [Assoc.contains, Assoc.find?_insert]
      by_cases same : keyOf (row.cell column) = key
      · simp [same]
      · simp [same, beq_eq_false_iff_ne.mpr same]

/-- The keys of an index are the keys of its rows. -/
theorem contains_indexBy
    (column key : String)
    (rows : List Row) :
    (indexBy column rows).contains key =
      rows.any fun row => keyOf (row.cell column) == key := by
  have present :=
    contains_foldl_insert column key rows (.empty)
  simpa [indexBy, Assoc.contains] using present

end Join

/-! ## The nested loops -/

/-- The cells of one row with the names of their columns, in order. -/
abbrev Line := List (String × Cell)

namespace Line

/-- The cell of a line in a column; an absent cell reads as nothing. -/
def cell (line : Line) (column : String) : Cell :=
  (Assoc.lookup column line).getD .null

/-- The line without any value in the given columns. -/
def blank (columns : List String) : Line :=
  columns.map fun column => (column, .null)

/-- A left and a right line have the same key, up to case. -/
def agree (leftKey rightKey : String) (left right : Line) : Bool :=
  Join.keyOf (left.cell leftKey) == Join.keyOf (right.cell rightKey)

end Line

/-- Lines under the names of their columns. -/
structure Grid where
  columns : List String
  lines : List Line

namespace Grid

/-- The lines of a table, whose columns are named by the alias of the table. -/
def ofTable (shown : String) (table : Table) : Grid where
  columns := table.columns.map (Join.columnName shown)
  lines :=
    table.rows.map fun row =>
      table.columns.map fun column => (Join.columnName shown column, row.cell column)

/-- Walk the left lines, each beside its partners; a line without one stands alone if it is kept. -/
def walkLeft (keepAlone : Bool) (left right : Grid) (leftKey rightKey : String) : List Line :=
  left.lines.flatMap fun line =>
    match right.lines.filter (Line.agree leftKey rightKey line) with
    | [] => if keepAlone then [line ++ Line.blank right.columns] else []
    | partners => partners.map fun partner => line ++ partner

/-- Walk the right lines, each beside its partners; a line without one stands alone. -/
def walkRight (left right : Grid) (leftKey rightKey : String) : List Line :=
  right.lines.flatMap fun line =>
    match left.lines.filter fun partner => Line.agree leftKey rightKey partner line with
    | [] => [Line.blank left.columns ++ line]
    | partners => partners.map fun partner => partner ++ line

/-- The right lines without a partner, alone. -/
def rightAlone (left right : Grid) (leftKey rightKey : String) : List Line :=
  (right.lines.filter fun line =>
      !left.lines.any fun partner => Line.agree leftKey rightKey partner line).map
    fun line => Line.blank left.columns ++ line

/-- One stage by nested loops; the columns of the left side come first. -/
def stage (left right : Grid) (leftKey rightKey : String) (joinType : JoinType) : Grid where
  columns := left.columns ++ right.columns
  lines :=
    match joinType with
    | .inner => walkLeft false left right leftKey rightKey
    | .left => walkLeft true left right leftKey rightKey
    | .right => walkRight left right leftKey rightKey
    | .full =>
        walkLeft true left right leftKey rightKey ++ rightAlone left right leftKey rightKey

end Grid

namespace Join.Sources

/-- The lines of a table that is loaded. -/
def grid (sources : Sources) (name : String) : Grid :=
  match sources.tables.find? name with
  | some table => Grid.ofTable (sources.aliasOf name) table
  | none => ⟨[], []⟩

/--
A further stage by nested loops: the left key is the column under the alias of its table when what
has come out so far has it, and the column as given otherwise.
-/
def nestedStage (sources : Sources) (left : Grid) (spec : JoinSpec) : Grid :=
  let named := sources.column spec.leftTable spec.leftColumn
  left.stage (sources.grid spec.rightTable)
    (if named ∈ left.columns then named else spec.leftColumn)
    (sources.column spec.rightTable spec.rightColumn) spec.joinType

/-- All stages by nested loops, from left to right. -/
def nestedLoop (sources : Sources) : List JoinSpec → Grid
  | [] => ⟨[], []⟩
  | first :: rest =>
      rest.foldl sources.nestedStage
        ((sources.grid first.leftTable).stage (sources.grid first.rightTable)
          (sources.column first.leftTable first.leftColumn)
          (sources.column first.rightTable first.rightColumn) first.joinType)

/-- The column names of the first left table and of the right table of every stage. -/
def stageColumns (sources : Sources) : List JoinSpec → List String
  | [] => []
  | first :: rest =>
      (sources.grid first.leftTable).columns ++
        (first :: rest).flatMap fun spec => (sources.grid spec.rightTable).columns

end Join.Sources

end Tabular
