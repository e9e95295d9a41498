import Tabular.Proofs.Join.Result

namespace Tabular

open List

/-!
# Rows that survive a join

A stage puts rows of its two sides beside one another, and a row without a partner alone when the
type of the join keeps it. Where both sides have a column of the same name, the cell of the right
side is written over that of the left side. So a row of the right side that is kept can always be
found again among the joined rows, whatever the columns are called. A row of the left side can be
lost when a name is on both sides, as it is when a table is joined with itself. The main statement
says exactly which rows are found again.
-/

/-- The rows have the same cells in the columns. -/
def Row.AgreesOn (columns : List String) (row other : Row) : Prop :=
  ∀ column ∈ columns, row.cell column = other.cell column

/-- Rows of the right side without a match are kept. -/
def JoinType.keepsRight (joinType : JoinType) : Bool :=
  joinType == .right || joinType == .full

namespace Join

/-! ## Cells of joined rows -/

theorem lookup_cellsOf
    (row : Option Row)
    (columns : List String)
    (column : String) :
    Assoc.lookup column (cellsOf row columns) =
      if column ∈ columns then some ((row.getD .empty).cell column) else none := by
  have sameCell (name : String) :
      ((row.map fun row => row.cell name).getD .null) =
        (row.getD .empty).cell name := by
    cases row <;> rfl
  simp only [cellsOf, sameCell]
  exact Assoc.lookup_map Function.injective_id _ column columns

/-- A joined row has the right cells in the columns of the right side, and else the left ones. -/
theorem cell_combine
    (left right : Side)
    (leftRow rightRow : Option Row)
    (column : String) :
    (combine left right leftRow rightRow).cell column =
      if column ∈ right.columns then (rightRow.getD .empty).cell column
      else if column ∈ left.columns then (leftRow.getD .empty).cell column
      else .null := by
  have reversed (row : Option Row) (columns : List String) :
      (cellsOf row columns).reverse = cellsOf row columns.reverse :=
    map_reverse.symm
  rw [Row.cell, combine, Assoc.find?_ofList, reverse_append, reversed,
    reversed, Assoc.lookup_append, lookup_cellsOf, lookup_cellsOf]
  simp only [mem_reverse]
  split
  · rfl
  · split <;> rfl

/-- A joined row always shows its right row. -/
theorem agreesOn_combine_right
    (left right : Side)
    (leftRow : Option Row)
    (rightRow : Row) :
    (combine left right leftRow (some rightRow)).AgreesOn right.columns
      rightRow := by
  intro column member
  rw [cell_combine, if_pos member]
  rfl

/-- The columns of a side whose names the other side has too. -/
def Side.shared (side other : Side) : List String :=
  side.columns.filter other.columns.contains

/-- The columns of a side whose names the other side does not have. -/
def Side.unshared (side other : Side) : List String :=
  side.columns.filter fun column => !other.columns.contains column

/-- A joined row shows a left row by its left row in some columns and by its right row in others. -/
theorem agreesOn_combine_left
    (left right : Side)
    (leftRow rightRow : Option Row)
    (row : Row) :
    (combine left right leftRow rightRow).AgreesOn left.columns row ↔
      (leftRow.getD .empty).AgreesOn (left.unshared right) row ∧
        (rightRow.getD .empty).AgreesOn (left.shared right) row := by
  constructor
  · intro agrees
    refine ⟨fun column member => ?_, fun column member => ?_⟩
    · obtain ⟨inLeft, notRight⟩ := mem_filter.mp member
      rw [← agrees column inLeft, cell_combine, if_neg (by simpa using notRight),
        if_pos inLeft]
    · obtain ⟨inLeft, inRight⟩ := mem_filter.mp member
      rw [← agrees column inLeft, cell_combine, if_pos (by simpa using inRight)]
  · rintro ⟨unshared, shared⟩ column inLeft
    rw [cell_combine]
    split
    · next inRight =>
        exact shared column (mem_filter.mpr ⟨inLeft, by simpa using inRight⟩)
    · next notRight =>
        exact unshared column (mem_filter.mpr ⟨inLeft, by simpa using notRight⟩)

/-! ## Which rows stand beside one another -/

section Stage

variable (left right : Side) (leftKey rightKey : String) (joinType : JoinType)

/-- A left and a right row have the same key. -/
def Matches (leftRow rightRow : Row) : Prop :=
  keyOf (leftRow.cell leftKey) = keyOf (rightRow.cell rightKey)

/-- The stage puts the rows beside one another, or a row without a partner beside nothing. -/
inductive Pairs : Option Row → Option Row → Prop where
  | matched {leftRow rightRow : Row} (inLeft : leftRow ∈ left.rows)
      (inRight : rightRow ∈ right.rows)
      (sameKey : Matches leftKey rightKey leftRow rightRow) :
      Pairs (some leftRow) (some rightRow)
  | leftAlone {leftRow : Row} (keeps : joinType.keepsLeft) (inLeft : leftRow ∈ left.rows)
      (noPartner : ∀ rightRow ∈ right.rows, ¬ Matches leftKey rightKey leftRow rightRow) :
      Pairs (some leftRow) none
  | rightAlone {rightRow : Row} (keeps : joinType.keepsRight) (inRight : rightRow ∈ right.rows)
      (noPartner : ∀ leftRow ∈ left.rows, ¬ Matches leftKey rightKey leftRow rightRow) :
      Pairs none (some rightRow)

/-- What is made of partners, or of the lack of any. -/
theorem mem_beside_iff
    {partners : List Row}
    {alone : List Row}
    {beside : Row → Row}
    {row : Row} :
    (row ∈ match partners with
      | [] => alone
      | partners => partners.map beside) ↔
      (∃ partner ∈ partners, row = beside partner) ∨
        partners = [] ∧ row ∈ alone := by
  cases partners with
  | nil =>
      simp
  | cons first rest =>
      simp [eq_comm]

theorem mem_rowsWithKey
    {column key : String}
    {rows : List Row}
    {row : Row} :
    row ∈ rowsWithKey column key rows ↔
      row ∈ rows ∧ keyOf (row.cell column) = key := by
  simp [rowsWithKey]

theorem rowsWithKey_eq_nil_iff
    {column key : String}
    {rows : List Row} :
    rowsWithKey column key rows = [] ↔
      ∀ row ∈ rows, keyOf (row.cell column) ≠ key := by
  simp [rowsWithKey, filter_eq_nil_iff]

variable {left right : Side} {leftKey rightKey : String}

/-- Walking the left side pairs each of its rows with its partners, or keeps it alone. -/
theorem mem_leftWalk_iff
    {joinType : JoinType}
    {row : Row} :
    row ∈ left.rows.flatMap
        (rowsForLeft left right leftKey joinType (indexBy rightKey right.rows)) ↔
      ∃ leftRow rightRow,
        Pairs left right leftKey rightKey joinType (some leftRow) rightRow ∧
          row = combine left right (some leftRow) rightRow := by
  have given_iff (leftRow : Row) :
      row ∈ rowsForLeft left right leftKey joinType
          (indexBy rightKey right.rows) leftRow ↔
        (∃ rightRow ∈ right.rows,
            Matches leftKey rightKey leftRow rightRow ∧
              row = combine left right (some leftRow) (some rightRow)) ∨
          (∀ rightRow ∈ right.rows,
              ¬ Matches leftKey rightKey leftRow rightRow) ∧
            joinType.keepsLeft ∧
              row = combine left right (some leftRow) none := by
    rw [rowsForLeft, matching_indexBy]
    refine mem_beside_iff.trans (or_congr ?_ (and_congr ?_ ?_))
    · simp only [mem_rowsWithKey, and_assoc, Matches, eq_comm]
    · rw [rowsWithKey_eq_nil_iff]
      simp only [Matches, eq_comm, ne_eq]
    · cases joinType.keepsLeft <;>
        simp
  rw [mem_flatMap]
  constructor
  · rintro ⟨leftRow, inLeft, given⟩
    rcases (given_iff leftRow).mp given with
      ⟨rightRow, inRight, sameKey, rfl⟩ | ⟨noPartner, keeps, rfl⟩
    · exact ⟨leftRow, some rightRow, .matched inLeft inRight sameKey, rfl⟩
    · exact ⟨leftRow, none, .leftAlone keeps inLeft noPartner, rfl⟩
  · rintro ⟨leftRow, _, pairs, rfl⟩
    cases pairs with
    | matched inLeft inRight sameKey =>
        exact
          ⟨leftRow, inLeft,
            (given_iff leftRow).mpr (.inl ⟨_, inRight, sameKey, rfl⟩)⟩
    | leftAlone keeps inLeft noPartner =>
        exact
          ⟨leftRow, inLeft, (given_iff leftRow).mpr (.inr ⟨noPartner, keeps, rfl⟩)⟩

/-- Walking the right side pairs each of its rows with its partners, or keeps it alone. -/
theorem mem_rightRows_iff
    {row : Row} :
    row ∈ rightRows left right leftKey rightKey ↔
      ∃ leftRow rightRow,
        Pairs left right leftKey rightKey .right leftRow (some rightRow) ∧
          row = combine left right leftRow (some rightRow) := by
  have given_iff (rightRow : Row) :
      (row ∈ match matching (indexBy leftKey left.rows)
          (keyOf (rightRow.cell rightKey)) with
        | [] => [combine left right none (some rightRow)]
        | partners =>
            partners.map fun leftRow =>
              combine left right (some leftRow) (some rightRow)) ↔
        (∃ leftRow ∈ left.rows,
            Matches leftKey rightKey leftRow rightRow ∧
              row = combine left right (some leftRow) (some rightRow)) ∨
          (∀ leftRow ∈ left.rows,
              ¬ Matches leftKey rightKey leftRow rightRow) ∧
            row = combine left right none (some rightRow) := by
    rw [matching_indexBy]
    refine mem_beside_iff.trans (or_congr ?_ (and_congr ?_ mem_singleton))
    · simp only [mem_rowsWithKey, and_assoc, Matches]
    · simp only [rowsWithKey_eq_nil_iff, Matches, ne_eq]
  rw [rightRows, mem_flatMap]
  constructor
  · rintro ⟨rightRow, inRight, given⟩
    rcases (given_iff rightRow).mp given with
      ⟨leftRow, inLeft, sameKey, rfl⟩ | ⟨noPartner, rfl⟩
    · exact ⟨some leftRow, rightRow, .matched inLeft inRight sameKey, rfl⟩
    · exact ⟨none, rightRow, .rightAlone rfl inRight noPartner, rfl⟩
  · rintro ⟨_, rightRow, pairs, rfl⟩
    cases pairs with
    | matched inLeft inRight sameKey =>
        exact
          ⟨rightRow, inRight,
            (given_iff rightRow).mpr (.inl ⟨_, inLeft, sameKey, rfl⟩)⟩
    | rightAlone keeps inRight noPartner =>
        exact
          ⟨rightRow, inRight, (given_iff rightRow).mpr (.inr ⟨noPartner, rfl⟩)⟩

/-- The right rows whose key no left row has are those that a full join keeps alone. -/
theorem mem_unmatched_iff
    {rightRow : Row} :
    (rightRow ∈ right.rows.filter fun row =>
        !(matchedKeys left leftKey (indexBy rightKey right.rows)).contains
          (keyOf (row.cell rightKey))) ↔
      Pairs left right leftKey rightKey .full none (some rightRow) := by
  rw [mem_filter]
  constructor
  · rintro ⟨inRight, unmatched⟩
    rw [contains_matchedKeys leftKey rightKey inRight] at unmatched
    exact .rightAlone rfl inRight (by simpa [Matches] using unmatched)
  · rintro (_ | _ | ⟨_, inRight, noPartner⟩)
    rw [contains_matchedKeys leftKey rightKey inRight]
    exact ⟨inRight, by simpa [Matches] using noPartner⟩

/-- The rows of a stage are exactly the pairs that it makes. -/
theorem mem_stageRows_iff
    {joinType : JoinType}
    {row : Row} :
    row ∈ stageRows left right leftKey rightKey joinType ↔
      ∃ leftRow rightRow,
        Pairs left right leftKey rightKey joinType leftRow rightRow ∧
          row = combine left right leftRow rightRow := by
  have ofWalk
      (keepsNoRight : joinType.keepsRight = false) :
      (∃ leftRow rightRow,
          Pairs left right leftKey rightKey joinType (some leftRow) rightRow ∧
            row = combine left right (some leftRow) rightRow) ↔
        ∃ leftRow rightRow,
          Pairs left right leftKey rightKey joinType leftRow rightRow ∧
            row = combine left right leftRow rightRow := by
    constructor
    · rintro ⟨leftRow, rightRow, pairs⟩
      exact ⟨some leftRow, rightRow, pairs⟩
    · rintro ⟨leftRow, rightRow, pairs, isCombined⟩
      cases leftRow with
      | some leftRow =>
          exact ⟨leftRow, rightRow, pairs, isCombined⟩
      | none =>
          rcases pairs with _ | _ | ⟨keeps, _, _⟩
          exact absurd keeps (by simp [keepsNoRight])
  cases joinType with
  | inner =>
      exact mem_leftWalk_iff.trans (ofWalk rfl)
  | left =>
      exact mem_leftWalk_iff.trans (ofWalk rfl)
  | right =>
      refine mem_rightRows_iff.trans ⟨?_, ?_⟩
      · rintro ⟨leftRow, rightRow, pairs⟩
        exact ⟨leftRow, some rightRow, pairs⟩
      · rintro ⟨leftRow, rightRow, pairs, isCombined⟩
        cases rightRow with
        | some rightRow =>
            exact ⟨leftRow, rightRow, pairs, isCombined⟩
        | none =>
            rcases pairs with _ | ⟨keeps, _, _⟩
            exact absurd keeps (by decide)
  | full =>
      simp only [stageRows, ↓reduceIte, mem_append, mem_map]
      rw [mem_leftWalk_iff]
      simp only [mem_unmatched_iff]
      constructor
      · rintro (⟨leftRow, rightRow, pairs⟩ | ⟨rightRow, pairs, rfl⟩)
        · exact ⟨some leftRow, rightRow, pairs⟩
        · exact ⟨none, some rightRow, pairs, rfl⟩
      · rintro ⟨leftRow, rightRow, pairs, isCombined⟩
        cases leftRow with
        | some leftRow =>
            exact .inl ⟨leftRow, rightRow, pairs, isCombined⟩
        | none =>
            cases pairs with
            | rightAlone keeps inRight noPartner =>
                exact
                  .inr ⟨_, .rightAlone keeps inRight noPartner, isCombined.symm⟩

/-! ## Rows that are found again -/

/-- Every right row is paired when the join keeps its right rows. -/
theorem exists_pairs_right
    {joinType : JoinType}
    (keeps : joinType.keepsRight)
    {rightRow : Row}
    (inRight : rightRow ∈ right.rows) :
    ∃ leftRow,
      Pairs left right leftKey rightKey joinType leftRow (some rightRow) := by
  by_cases partner :
      ∃ leftRow ∈ left.rows, Matches leftKey rightKey leftRow rightRow
  · obtain ⟨leftRow, inLeft, sameKey⟩ := partner
    exact ⟨some leftRow, .matched inLeft inRight sameKey⟩
  · exact
      ⟨none,
        .rightAlone keeps inRight fun leftRow inLeft sameKey =>
          partner ⟨leftRow, inLeft, sameKey⟩⟩

/-- Every left row is paired when the join keeps its left rows. -/
theorem exists_pairs_left
    {joinType : JoinType}
    (keeps : joinType.keepsLeft)
    {leftRow : Row}
    (inLeft : leftRow ∈ left.rows) :
    ∃ rightRow,
      Pairs left right leftKey rightKey joinType (some leftRow) rightRow := by
  by_cases partner :
      ∃ rightRow ∈ right.rows, Matches leftKey rightKey leftRow rightRow
  · obtain ⟨rightRow, inRight, sameKey⟩ := partner
    exact ⟨some rightRow, .matched inLeft inRight sameKey⟩
  · exact
      ⟨none,
        .leftAlone keeps inLeft fun rightRow inRight sameKey =>
          partner ⟨rightRow, inRight, sameKey⟩⟩

variable (left right leftKey rightKey) in
/--
A left row is saved when some pair has its cells: the left row of the pair those in columns of the
left side alone, and the right row of the pair those in columns that both sides have.
-/
def Saves (joinType : JoinType) (row : Row) : Prop :=
  ∃ leftRow rightRow,
    Pairs left right leftKey rightKey joinType leftRow rightRow ∧
      (leftRow.getD .empty).AgreesOn (left.unshared right) row ∧
        (rightRow.getD .empty).AgreesOn (left.shared right) row

/-- The rows of a stage show a left row exactly when the stage saves it. -/
theorem exists_agreesOn_left_iff
    {joinType : JoinType}
    {leftRow : Row} :
    (∃ row ∈ stageRows left right leftKey rightKey joinType,
        row.AgreesOn left.columns leftRow) ↔
      Saves left right leftKey rightKey joinType leftRow := by
  constructor
  · rintro ⟨row, member, agrees⟩
    obtain ⟨pairLeft, pairRight, pairs, rfl⟩ := mem_stageRows_iff.mp member
    exact ⟨pairLeft, pairRight, pairs, agreesOn_combine_left .. |>.mp agrees⟩
  · rintro ⟨pairLeft, pairRight, pairs, agrees⟩
    exact
      ⟨_, mem_stageRows_iff.mpr ⟨pairLeft, pairRight, pairs, rfl⟩,
        agreesOn_combine_left .. |>.mpr agrees⟩

theorem exists_agreesOn_right
    {joinType : JoinType}
    (keeps : joinType.keepsRight)
    {rightRow : Row}
    (inRight : rightRow ∈ right.rows) :
    ∃ row ∈ stageRows left right leftKey rightKey joinType,
      row.AgreesOn right.columns rightRow := by
  obtain ⟨pairLeft, pairs⟩ := exists_pairs_right keeps inRight
  exact
    ⟨_, mem_stageRows_iff.mpr ⟨pairLeft, some rightRow, pairs, rfl⟩,
      agreesOn_combine_right left right pairLeft rightRow⟩

/-- Without common columns a stage saves every left row that its type keeps. -/
theorem saves_of_shared_eq_nil
    {joinType : JoinType}
    (keeps : joinType.keepsLeft)
    (noneShared : left.shared right = [])
    {leftRow : Row}
    (inLeft : leftRow ∈ left.rows) :
    Saves left right leftKey rightKey joinType leftRow := by
  obtain ⟨pairRight, pairs⟩ := exists_pairs_left keeps inLeft
  refine ⟨some leftRow, pairRight, pairs, fun _ _ => rfl, ?_⟩
  rw [noneShared]
  exact fun _ member => absurd member not_mem_nil

end Stage

/-- A side joined with itself by one column saves all of its rows. -/
theorem saves_of_same_side
    (side : Side)
    (key : String)
    (joinType : JoinType)
    {row : Row}
    (member : row ∈ side.rows) :
    Saves side side key key joinType row :=
  ⟨some row, some row, .matched member member rfl, fun _ _ => rfl,
    fun _ _ => rfl⟩

/-! ## Rows of tables -/

/-- The row shows the cells of a row of a table under the alias of the table. -/
def Shows (shown : String) (table : Table) (row joined : Row) : Prop :=
  ∀ column ∈ table.columns, joined.cell (columnName shown column) = row.cell column

instance (shown : String) (table : Table) (row joined : Row) :
    Decidable (Shows shown table row joined) :=
  inferInstanceAs (Decidable (∀ column ∈ table.columns, _ = _))

/-- The row of a table with its columns named by the alias of the table. -/
def named (shown : String) (table : Table) (row : Row) : Row :=
  .ofList (table.columns.map fun column => (columnName shown column, row.cell column))

theorem columnName_injective
    (shown : String) :
    Function.Injective (columnName shown) := by
  intro column other same
  simpa [columnName] using same

theorem cell_named
    (shown : String)
    (table : Table)
    (row : Row)
    {column : String}
    (member : column ∈ table.columns) :
    (named shown table row).cell (columnName shown column) = row.cell column := by
  rw [named, Row.cell, Assoc.find?_ofList, ← map_reverse,
    Assoc.lookup_map (columnName_injective shown), if_pos (mem_reverse.mpr member)]
  rfl

/-- A joined row shows a row of a table when it agrees with the named row. -/
theorem shows_iff_agreesOn
    (shown : String)
    (table : Table)
    (row joined : Row) :
    Shows shown table row joined ↔
      joined.AgreesOn (sideOf shown table).columns (named shown table row) := by
  constructor
  · intro shows column member
    obtain ⟨own, isColumn, rfl⟩ := mem_map.mp member
    rw [cell_named shown table row isColumn]
    exact shows own isColumn
  · intro agrees column member
    rw [agrees _ (mem_map_of_mem member), cell_named shown table row member]

/-- The stage saves a row of its left table, named by the alias of the table. -/
def Sources.SavesRow (sources : Sources) (spec : JoinSpec) (leftTable : Table) (row : Row) :
    Prop :=
  Saves (sources.side spec.leftTable) (sources.side spec.rightTable)
    (sources.column spec.leftTable spec.leftColumn)
    (sources.column spec.rightTable spec.rightColumn) spec.joinType
    (named (sources.aliasOf spec.leftTable) leftTable row)

theorem Sources.side_of_loaded
    {sources : Sources}
    {name : String}
    {table : Table}
    (loaded : sources.tables.find? name = some table) :
    sources.side name = sideOf (sources.aliasOf name) table := by
  rw [side, loaded]

end Join

open Join Join.Sources

/--
Whatever the aliases are, and also when a table is joined with itself, the result of a join of two
loaded tables shows every row of the right table when the type of the join keeps right rows. When it
keeps left rows, the result shows a row of the left table exactly if the stage saves the row. It
saves every row when no column name is on both sides, and when a table is joined with itself by one
column.
-/
theorem rows_shown_by_join
    (settings : Settings)
    (sources : Sources)
    (spec : JoinSpec)
    (leftTable rightTable : Table)
    (leftLoaded : sources.tables.find? spec.leftTable = some leftTable)
    (rightLoaded : sources.tables.find? spec.rightTable = some rightTable)
    (joined : Joined)
    (answered : performJoin settings sources [spec] = .ok joined) :
    (spec.joinType.keepsRight →
        ∀ rightRow ∈ rightTable.rows, ∃ row ∈ joined.table.rows,
          Shows (sources.aliasOf spec.rightTable) rightTable rightRow row) ∧
      (spec.joinType.keepsLeft →
        ∀ leftRow ∈ leftTable.rows,
          ((∃ row ∈ joined.table.rows,
              Shows (sources.aliasOf spec.leftTable) leftTable leftRow row) ↔
            sources.SavesRow spec leftTable leftRow) ∧
          ((sources.side spec.leftTable).shared (sources.side spec.rightTable) = [] ∨
              spec.leftTable = spec.rightTable ∧ spec.leftColumn = spec.rightColumn →
            sources.SavesRow spec leftTable leftRow)) := by
  have loaded : ∀ name ∈ namesOf [spec], sources.tables.contains name := by
    simp [namesOf, Assoc.contains, leftLoaded, rightLoaded]
  have rowsAre := (chain_of_performJoin (by simp) loaded answered).2
  rw [chain, foldl_nil, firstStage, joinSides] at rowsAre
  have leftSide := side_of_loaded leftLoaded
  have rightSide := side_of_loaded rightLoaded
  rw [rowsAre]
  refine ⟨fun keeps rightRow member => ?_, fun keeps leftRow member => ⟨?_, ?_⟩⟩
  · simp only [shows_iff_agreesOn]
    rw [← rightSide]
    apply exists_agreesOn_right keeps
    rw [rightSide]
    exact mem_map_of_mem member
  · simp only [shows_iff_agreesOn]
    rw [← leftSide]
    exact exists_agreesOn_left_iff
  · have inLeft :
        named (sources.aliasOf spec.leftTable) leftTable leftRow ∈
          (sources.side spec.leftTable).rows := by
      rw [leftSide]
      exact mem_map_of_mem member
    rintro (noneShared | ⟨sameTable, sameColumn⟩)
    · exact saves_of_shared_eq_nil keeps noneShared inLeft
    · rw [SavesRow, ← sameTable, ← sameColumn]
      exact saves_of_same_side _ _ _ inLeft

namespace Join.Staff

/-- A member of the staff whose boss is no member. -/
def ann : Row :=
  .ofList [("name", .text "Ann"), ("boss", .text "Bob")]

/-- The staff. The description of its columns is given, so that nothing is inferred. -/
def table : Table where
  name := some "staff"
  columns := ann.keys
  rows := [ann]
  typeSource := .given .empty
  kindSource := .given .empty

/-- The staff alone. -/
def sources : Sources where
  tables := .ofList [("staff", table)]
  aliases := .empty

/-- Every member of the staff beside the boss. -/
def spec : JoinSpec where
  leftTable := "staff"
  leftColumn := "boss"
  rightTable := "staff"
  rightColumn := "name"
  joinType := .left

/--
The join keeps rows without a partner, but the empty cells that stand for the partner are written
over the cells of such a row, since both sides have the same column names.
-/
theorem ann_is_lost :
    ∃ joined, performJoin {} sources [spec] = .ok joined ∧
      (¬ ∃ row ∈ joined.table.rows, Shows "staff" table ann row) ∧
        ¬ sources.SavesRow spec table ann := by
  obtain ⟨joined, answered⟩ :
      ∃ joined, performJoin {} sources [spec] = .ok joined :=
    Outcome.fault?_eq_none_iff.mp (by decide +kernel)
  have rowsAre : joined.table.rows = (chain sources [spec]).rows :=
    (chain_of_performJoin (by decide) (by decide) answered).2
  have notShown : ¬ ∃ row ∈ joined.table.rows, Shows "staff" table ann row := by
    rw [rowsAre]
    decide +kernel
  have shownIff :=
    (rows_shown_by_join {} sources spec table table rfl rfl joined answered).2
      (by decide) ann (by decide)
  exact ⟨joined, answered, notShown, fun saved => notShown (shownIff.1.mpr saved)⟩

end Join.Staff

end Tabular
