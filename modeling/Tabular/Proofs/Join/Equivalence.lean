import Mathlib.Data.List.Basic
import Tabular.Proofs.Join.NestedLoop

namespace Tabular

open List

/-!
# Indexed joins are nested loops

The sides of an indexed join and the grids of nested loops hold the same lines under the same
columns. Every stage keeps this, as long as the columns of its two sides are distinct, so a whole
join does.
-/

namespace Join

/-- A grid holds the rows of a side as lines, and every row has exactly the columns of the side. -/
structure Side.ShownBy (side : Side) (grid : Grid) : Prop where
  columns : grid.columns = side.columns
  lines : grid.lines = side.rows.map Assoc.entries
  keys : ∀ row ∈ side.rows, row.keys = side.columns

/-! ## Cells of lines -/

/-- The entries of a row are a line with the same cells. -/
@[simp] theorem cell_entries
    (row : Row)
    (column : String) :
    Line.cell row.entries column = row.cell column :=
  rfl

@[simp] theorem names_cellsOf
    (row : Option Row)
    (columns : List String) :
    (cellsOf row columns).map Prod.fst = columns := by
  simp [cellsOf, Function.comp_def]

theorem cellsOf_none
    (columns : List String) :
    cellsOf none columns = Line.blank columns :=
  rfl

theorem cellsOf_keys
    (row : Row) :
    cellsOf (some row) row.keys = row.entries := by
  have own (entry : String × Cell)
      (member : entry ∈ row.entries) :
      (entry.1, row.cell entry.1) = entry := by
    have found : row.find? entry.1 = some entry.2 :=
      Assoc.find?_eq_some_iff.mpr member
    simp [Row.cell, found]
  calc
    cellsOf (some row) row.keys =
        row.entries.map fun entry => (entry.1, row.cell entry.1) := by
      simp [cellsOf, Assoc.keys, Function.comp_def]
    _ = row.entries.map id :=
      map_congr_left own
    _ = row.entries :=
      map_id row.entries

/-- Rows beside one another have the cells of the left one before those of the right one. -/
theorem entries_combine
    {left right : Side}
    (distinct : (left.columns ++ right.columns).Nodup)
    (leftRow rightRow : Option Row) :
    (combine left right leftRow rightRow).entries =
      cellsOf leftRow left.columns ++ cellsOf rightRow right.columns :=
  Assoc.entries_ofList (by simpa using distinct)

theorem keys_combine
    {left right : Side}
    (distinct : (left.columns ++ right.columns).Nodup)
    (leftRow rightRow : Option Row) :
    (combine left right leftRow rightRow).keys =
      left.columns ++ right.columns := by
  rw [Assoc.keys, entries_combine distinct]
  simp

/-! ## One stage -/

section Stage

variable
  {left right : Side}
  {leftGrid rightGrid : Grid}
  (leftShown : left.ShownBy leftGrid)
  (rightShown : right.ShownBy rightGrid)
  (distinct : (left.columns ++ right.columns).Nodup)
  (leftKey rightKey : String)

include leftShown rightShown distinct

/-- A left row beside a right row is the one line after the other. -/
theorem entries_combine_some
    {leftRow rightRow : Row}
    (leftMember : leftRow ∈ left.rows)
    (rightMember : rightRow ∈ right.rows) :
    (combine left right (some leftRow) (some rightRow)).entries =
      leftRow.entries ++ rightRow.entries := by
  rw [entries_combine distinct,
    ← leftShown.keys leftRow leftMember,
    ← rightShown.keys rightRow rightMember,
    cellsOf_keys, cellsOf_keys]

omit rightShown in
/-- A left row alone is its line before a blank one. -/
theorem entries_combine_left
    {leftRow : Row}
    (leftMember : leftRow ∈ left.rows) :
    (combine left right (some leftRow) none).entries =
      leftRow.entries ++ Line.blank right.columns := by
  rw [entries_combine distinct,
    ← leftShown.keys leftRow leftMember,
    cellsOf_keys, cellsOf_none]

omit leftShown in
theorem entries_combine_right
    {rightRow : Row}
    (rightMember : rightRow ∈ right.rows) :
    (combine left right none (some rightRow)).entries =
      Line.blank left.columns ++ rightRow.entries := by
  rw [entries_combine distinct,
    ← rightShown.keys rightRow rightMember,
    cellsOf_keys, cellsOf_none]

omit leftShown distinct in
/-- The lines that agree with a left row are the rows that its key is looked up to. -/
theorem filter_agree_left
    (leftRow : Row) :
    rightGrid.lines.filter (Line.agree leftKey rightKey leftRow.entries) =
      (rowsWithKey rightKey (keyOf (leftRow.cell leftKey)) right.rows).map
        Assoc.entries := by
  rw [rightShown.lines, filter_map]
  congr 1
  apply filter_congr
  intro row _
  simp [Line.agree, Bool.beq_comm]

omit rightShown distinct in
theorem filter_agree_right
    (rightRow : Row) :
    (leftGrid.lines.filter fun line =>
        Line.agree leftKey rightKey line rightRow.entries) =
      (rowsWithKey leftKey (keyOf (rightRow.cell rightKey)) left.rows).map
        Assoc.entries := by
  rw [leftShown.lines, filter_map]
  rfl

/-- What a left row gives is what walking the right lines for it gives. -/
theorem entries_rowsForLeft
    (joinType : JoinType)
    {leftRow : Row}
    (leftMember : leftRow ∈ left.rows) :
    (rowsForLeft left right leftKey joinType
        (indexBy rightKey right.rows) leftRow).map Assoc.entries =
      match rightGrid.lines.filter
          (Line.agree leftKey rightKey leftRow.entries) with
      | [] =>
          if joinType.keepsLeft then
            [leftRow.entries ++ Line.blank rightGrid.columns]
          else []
      | partners =>
          partners.map fun partner => leftRow.entries ++ partner := by
  rw [filter_agree_left rightShown, rowsForLeft, matching_indexBy,
    rightShown.columns]
  cases found :
      rowsWithKey rightKey (keyOf (leftRow.cell leftKey)) right.rows with
  | nil =>
      cases joinType.keepsLeft <;>
        simp [entries_combine_left leftShown distinct leftMember]
  | cons first others =>
      rw [← found]
      have beside (rightRow : Row)
          (member : rightRow ∈
            rowsWithKey rightKey (keyOf (leftRow.cell leftKey))
              right.rows) :
          (combine left right (some leftRow) (some rightRow)).entries =
            leftRow.entries ++ rightRow.entries :=
        entries_combine_some leftShown rightShown distinct
          leftMember (mem_filter.mp member).1
      simp only [found] at beside ⊢
      change
        map Assoc.entries (map _ (first :: others)) =
          map (fun partner => leftRow.entries ++ partner)
            (map Assoc.entries (first :: others))
      rw [map_map, map_map]
      exact map_congr_left beside

/-- Walking the left rows through an index gives the lines of the nested loops. -/
theorem entries_leftWalk
    (joinType : JoinType) :
    (left.rows.flatMap
        (rowsForLeft left right leftKey joinType
          (indexBy rightKey right.rows))).map Assoc.entries =
      Grid.walkLeft joinType.keepsLeft leftGrid rightGrid
        leftKey rightKey := by
  rw [map_flatMap, Grid.walkLeft, leftShown.lines, flatMap_map]
  apply flatMap_congr
  intro leftRow leftMember
  exact entries_rowsForLeft leftShown rightShown distinct
    leftKey rightKey joinType leftMember

theorem entries_rightRows :
    (rightRows left right leftKey rightKey).map Assoc.entries =
      Grid.walkRight leftGrid rightGrid leftKey rightKey := by
  rw [rightRows, map_flatMap, Grid.walkRight, rightShown.lines,
    flatMap_map]
  apply flatMap_congr
  intro rightRow rightMember
  rw [filter_agree_right leftShown, matching_indexBy,
    leftShown.columns]
  cases found :
      rowsWithKey leftKey (keyOf (rightRow.cell rightKey)) left.rows with
  | nil =>
      simp [entries_combine_right rightShown distinct rightMember]
  | cons first others =>
      have beside (leftRow : Row)
          (member : leftRow ∈ first :: others) :
          (combine left right (some leftRow) (some rightRow)).entries =
            leftRow.entries ++ rightRow.entries := by
        rw [← found] at member
        exact entries_combine_some leftShown rightShown distinct
          (mem_filter.mp member).1 rightMember
      change
        map Assoc.entries (map _ (first :: others)) =
          map (fun partner => partner ++ rightRow.entries)
            (map Assoc.entries (first :: others))
      rw [map_map, map_map]
      exact map_congr_left beside

omit leftShown rightShown distinct in
/-- A right row has a matched key exactly when it agrees with some left row. -/
theorem contains_matchedKeys
    {rightRow : Row}
    (rightMember : rightRow ∈ right.rows) :
    (matchedKeys left leftKey (indexBy rightKey right.rows)).contains
        (keyOf (rightRow.cell rightKey)) =
      left.rows.any fun leftRow =>
        keyOf (leftRow.cell leftKey) == keyOf (rightRow.cell rightKey) := by
  have rightKeyIsIndexed :
      (indexBy rightKey right.rows).contains
        (keyOf (rightRow.cell rightKey)) = true := by
    rw [contains_indexBy, any_eq_true]
    exact ⟨rightRow, rightMember, beq_self_eq_true _⟩
  rw [Bool.eq_iff_iff, contains_iff_mem, matchedKeys, mem_filter,
    mem_map, any_eq_true]
  simp only [rightKeyIsIndexed, and_true, beq_iff_eq]

/-- The right rows without a matched key are the right lines without a partner. -/
theorem entries_alone :
    ((right.rows.filter fun row =>
        !(matchedKeys left leftKey (indexBy rightKey right.rows)).contains
          (keyOf (row.cell rightKey))).map fun row =>
        combine left right none (some row)).map Assoc.entries =
      Grid.rightAlone leftGrid rightGrid leftKey rightKey := by
  have sameRows :
      (right.rows.filter fun row =>
        !(matchedKeys left leftKey (indexBy rightKey right.rows)).contains
          (keyOf (row.cell rightKey))) =
        right.rows.filter fun row =>
          !leftGrid.lines.any fun partner =>
            Line.agree leftKey rightKey partner row.entries := by
    apply filter_congr
    intro row member
    rw [contains_matchedKeys leftKey rightKey member, leftShown.lines,
      any_map]
    rfl
  rw [sameRows, Grid.rightAlone, rightShown.lines, filter_map,
    leftShown.columns, map_map, map_map]
  apply map_congr_left
  intro row member
  exact entries_combine_right rightShown distinct (mem_filter.mp member).1

/-- The rows of a stage are the lines of the stage by nested loops. -/
theorem entries_stageRows
    (joinType : JoinType) :
    (stageRows left right leftKey rightKey joinType).map Assoc.entries =
      (leftGrid.stage rightGrid leftKey rightKey joinType).lines := by
  have walked :=
    entries_leftWalk leftShown rightShown distinct leftKey rightKey
  cases joinType with
  | inner =>
      exact walked .inner
  | left =>
      exact walked .left
  | right =>
      exact entries_rightRows leftShown rightShown distinct leftKey rightKey
  | full =>
      have alone :=
        entries_alone leftShown rightShown distinct leftKey rightKey
      simp only [stageRows, ↓reduceIte, map_append]
      exact congrArg₂ (· ++ ·) (walked .full) alone

omit leftShown rightShown in
theorem keys_stageRows
    (joinType : JoinType) :
    ∀ row ∈ stageRows left right leftKey rightKey joinType,
      row.keys = left.columns ++ right.columns := by
  have beside (leftRow rightRow : Option Row) :=
    keys_combine distinct leftRow rightRow
  have walked :
      ∀ row ∈ left.rows.flatMap
          (rowsForLeft left right leftKey joinType
            (indexBy rightKey right.rows)),
        row.keys = left.columns ++ right.columns := by
    intro row member
    obtain ⟨leftRow, _, given⟩ := mem_flatMap.mp member
    unfold rowsForLeft at given
    split at given
    · split at given
      · rw [mem_singleton.mp given]
        exact beside _ _
      · exact absurd given not_mem_nil
    · obtain ⟨rightRow, _, rfl⟩ := mem_map.mp given
      exact beside _ _
  intro row member
  cases joinType with
  | inner =>
      exact walked row member
  | left =>
      exact walked row member
  | right =>
      simp only [stageRows, rightRows] at member
      obtain ⟨rightRow, _, given⟩ := mem_flatMap.mp member
      split at given
      · rw [mem_singleton.mp given]
        exact beside _ _
      · obtain ⟨leftRow, _, rfl⟩ := mem_map.mp given
        exact beside _ _
  | full =>
      simp only [stageRows, ↓reduceIte, mem_append] at member
      rcases member with inWalk | isAlone
      · exact walked row inWalk
      · obtain ⟨rightRow, _, rfl⟩ := mem_map.mp isAlone
        exact beside _ _

omit leftShown rightShown in
theorem columns_joinSides
    (joinType : JoinType) :
    (joinSides left right leftKey rightKey joinType).columns =
      left.columns ++ right.columns := by
  have allNew :
      right.columns.filter (fun column => !left.columns.contains column) =
        right.columns := by
    rw [filter_eq_self]
    intro column inRight
    have notLeft : column ∉ left.columns := by
      intro inLeft
      exact (nodup_append.mp distinct).2.2
        column inLeft column inRight rfl
    simpa using notLeft
  rw [joinSides, allNew]

/-- A stage over shown sides is shown by the stage over their grids. -/
theorem shownBy_joinSides
    (joinType : JoinType) :
    (joinSides left right leftKey rightKey joinType).ShownBy
      (leftGrid.stage rightGrid leftKey rightKey joinType) where
  columns := by
    rw [columns_joinSides distinct, ← leftShown.columns,
      ← rightShown.columns]
    rfl
  lines :=
    (entries_stageRows leftShown rightShown distinct
      leftKey rightKey joinType).symm
  keys := by
    rw [columns_joinSides distinct]
    exact keys_stageRows distinct leftKey rightKey joinType

end Stage

/-! ## All stages -/

/-- A table under its alias is shown by its grid when its columns are distinct. -/
theorem shownBy_sideOf
    (shown : String)
    (table : Table)
    (distinct : (table.columns.map (columnName shown)).Nodup) :
    (sideOf shown table).ShownBy (Grid.ofTable shown table) := by
  have entriesOf (row : Row) :
      (Assoc.ofList
          (table.columns.map fun column =>
            (columnName shown column, row.cell column))).entries =
        table.columns.map fun column =>
          (columnName shown column, row.cell column) := by
    apply Assoc.entries_ofList
    simpa [Function.comp_def] using distinct
  refine {
    columns := rfl
    lines := ?_
    keys := ?_
  }
  · simp [sideOf, Grid.ofTable, entriesOf]
  · intro row member
    obtain ⟨source, _, rfl⟩ := mem_map.mp member
    simp [sideOf, Assoc.keys, entriesOf]

namespace Sources

/-- A named table is shown by its grid when its columns are distinct. -/
theorem shownBy_side
    (sources : Sources)
    (name : String)
    (distinct : (sources.grid name).columns.Nodup) :
    (sources.side name).ShownBy (sources.grid name) := by
  unfold side grid at *
  cases found : sources.tables.find? name with
  | none =>
      exact ⟨rfl, rfl, by simp⟩
  | some table =>
      rw [found] at distinct
      exact shownBy_sideOf _ table distinct

/--
Further stages over shown sides are shown by the further stages by nested loops. The left side grows
with every stage, so what is distinct are its columns and all to come.
-/
theorem shownBy_foldl_nextStage
    (sources : Sources)
    {specs : List JoinSpec}
    {left : Side}
    {leftGrid : Grid}
    (leftShown : left.ShownBy leftGrid)
    (distinct :
      (left.columns ++
        specs.flatMap fun spec =>
          (sources.grid spec.rightTable).columns).Nodup) :
    (specs.foldl sources.nextStage left).ShownBy
      (specs.foldl sources.nestedStage leftGrid) := by
  induction specs generalizing left leftGrid with
  | nil =>
      exact leftShown
  | cons spec rest inductionHypothesis =>
      rw [flatMap_cons, ← append_assoc] at distinct
      have stageDistinct := (nodup_append.mp distinct).1
      have rightShown :=
        sources.shownBy_side spec.rightTable
          (nodup_append.mp stageDistinct).2.1
      rw [rightShown.columns] at stageDistinct distinct
      have sameKey :
          (if left.columns.contains
              (sources.column spec.leftTable spec.leftColumn) then
            sources.column spec.leftTable spec.leftColumn
          else spec.leftColumn) =
            if sources.column spec.leftTable spec.leftColumn ∈
                leftGrid.columns then
              sources.column spec.leftTable spec.leftColumn
            else spec.leftColumn := by
        simp [leftShown.columns]
      have stageShown :
          (sources.nextStage left spec).ShownBy
            (sources.nestedStage leftGrid spec) := by
        simp only [nextStage, nestedStage, sameKey]
        exact shownBy_joinSides leftShown rightShown stageDistinct _ _ _
      apply inductionHypothesis stageShown
      rw [nextStage, columns_joinSides stageDistinct]
      exact distinct

/-- A join with distinct columns is shown by its nested loops. -/
theorem shownBy_nestedLoop
    (sources : Sources)
    {specs : List JoinSpec}
    (distinct : (sources.stageColumns specs).Nodup) :
    (chain sources specs).ShownBy (sources.nestedLoop specs) := by
  cases specs with
  | nil =>
      exact ⟨rfl, rfl, by simp [chain]⟩
  | cons first rest =>
      rw [stageColumns, flatMap_cons, ← append_assoc] at distinct
      have stageDistinct := (nodup_append.mp distinct).1
      have leftShown :=
        sources.shownBy_side first.leftTable
          (nodup_append.mp stageDistinct).1
      have rightShown :=
        sources.shownBy_side first.rightTable
          (nodup_append.mp stageDistinct).2.1
      rw [leftShown.columns, rightShown.columns] at stageDistinct distinct
      apply sources.shownBy_foldl_nextStage
      · exact shownBy_joinSides leftShown rightShown stageDistinct _ _ _
      · rw [firstStage, columns_joinSides stageDistinct]
        exact distinct

end Sources

end Join

end Tabular
