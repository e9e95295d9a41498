import Tabular.Analysis.Quality
import Tabular.Analysis.Statistics
import Tabular.Proofs.Analysis.Grouping
import Tabular.Proofs.Assoc
import Tabular.Proofs.Outcome

namespace Tabular

/-!
# What a report says about a column

Under each column of a table, a report has the quality of the cells of that column. The quality
counts the cells that are missing and those that repeat a value; number columns also have their
outliers. The cells that are left are as many as the different values of the column, which can be
listed as well.
-/

namespace Quality

/-- The quality of cells has the counts of the cells, and the outliers of cells that are numbers. -/
structure Describes (settings : Settings) (cells : List Cell) (quality : ColumnQuality) :
    Prop where
  missingCount_eq : quality.missingCount = cells.countP Cell.isBlank
  duplicateCount_eq :
    quality.duplicateCount =
      (cells.filter fun cell => !cell.isBlank).length -
        ((cells.filter fun cell => !cell.isBlank).map Cell.display).eraseDups.length
  outliers : quality.outliers = {} ∨ findOutliers settings cells = .ok quality.outliers

variable {settings : Settings}

theorem length_filter_filled_add
    (cells : List Cell) :
    cells.countP Cell.isBlank + (cells.filter fun cell => !cell.isBlank).length = cells.length := by
  rw [← List.countP_eq_length_filter, List.length_eq_countP_add_countP Cell.isBlank]
  simp only [Bool.not_eq_true, Bool.decide_eq_false]

theorem describes_of_columnQuality
    {columnType : Option ColumnType}
    {cells : List Cell}
    {quality : ColumnQuality}
    {raw : Binary64}
    (described : columnQuality settings columnType cells = .ok (quality, raw)) :
    Describes settings cells quality := by
  rw [columnQuality] at described
  dsimp only at described
  have parts := length_filter_filled_add cells
  split at described
  all_goals
    obtain ⟨outliers, areOutliers, described⟩ := Outcome.bind_eq_ok_iff.mp described
    obtain ⟨percent, -, described⟩ := Outcome.bind_eq_ok_iff.mp described
    obtain ⟨score, -, described⟩ := Outcome.bind_eq_ok_iff.mp described
    cases described
    refine ⟨by dsimp only; omega, by dsimp only; congr 1; omega, ?_⟩
  · exact .inr areOutliers
  · cases areOutliers
    exact .inl rfl

/-- Each column is described under its name, also when the name is listed more than once. -/
theorem exists_describes_of_columnQualities
    {types : Assoc ColumnType}
    {table : Table}
    {qualities : List (String × ColumnQuality × Binary64)}
    (areQualities : columnQualities settings types table = .ok qualities)
    {column : String}
    (isColumn : column ∈ table.columns) :
    ∃ quality,
      (Assoc.ofList (qualities.map fun entry => (entry.1, entry.2.1))).find? column =
          some quality ∧
        Describes settings (table.cells column) quality := by
  obtain ⟨entry, member, asked⟩ := Outcome.exists_image_of_mapM areQualities isColumn
  obtain ⟨⟨quality, raw⟩, described, isEntry⟩ := Outcome.bind_eq_ok_iff.mp asked
  cases isEntry
  refine ⟨quality, ?_, describes_of_columnQuality described⟩
  refine Assoc.find?_ofList_of_only (List.mem_map_of_mem member) fun other listed => ?_
  obtain ⟨listedEntry, isListed, isOther⟩ := List.mem_map.mp listed
  obtain ⟨listedColumn, -, askedAgain⟩ := Outcome.exists_element_of_mapM areQualities isListed
  obtain ⟨again, describedAgain, isEntry⟩ := Outcome.bind_eq_ok_iff.mp askedAgain
  cases isEntry
  cases isOther
  rw [described] at describedAgain
  cases describedAgain
  rfl

end Quality

/-- A report on a table with rows describes each of its columns. -/
theorem exists_describes_of_analyzeQuality
    {settings : Settings}
    {types : Option (Assoc ColumnType)}
    {table : Table}
    {report : QualityReport}
    (reported : analyzeQuality settings types table = .ok report)
    (filled : table.rows ≠ [])
    {column : String}
    (isColumn : column ∈ table.columns) :
    ∃ quality, report.columns.find? column = some quality ∧
      Quality.Describes settings (table.cells column) quality := by
  have reportsFor (given : Assoc ColumnType)
      (reportedFor : Quality.reportFor settings given table = .ok report) :
      ∃ quality, report.columns.find? column = some quality ∧
        Quality.Describes settings (table.cells column) quality := by
    obtain ⟨qualities, areQualities, reportedFor⟩ := Outcome.bind_eq_ok_iff.mp reportedFor
    obtain ⟨overall, -, reportedFor⟩ := Outcome.bind_eq_ok_iff.mp reportedFor
    obtain ⟨duplicates, -, reportedFor⟩ := Outcome.bind_eq_ok_iff.mp reportedFor
    cases reportedFor
    exact Quality.exists_describes_of_columnQualities areQualities isColumn
  have hasRows : ¬table.isEmpty = true := by
    simpa [Table.isEmpty] using filled
  rw [analyzeQuality, if_neg hasRows] at reported
  cases types with
  | some given =>
      exact reportsFor given reported
  | none =>
      obtain ⟨inferred, -, reported⟩ := Outcome.bind_eq_ok_iff.mp reported
      exact reportsFor inferred reported

/-!
## The different values of a column

The values of a column are what its cells show that are not blank, each once and in ascending order.
A report counts them on its own: the rows of a column are those with missing cells, those that show
a value first, and those that repeat one.
-/

/-- The values are those that a column shows, each of them once and in order. -/
structure Table.ShowsValues (table : Table) (column : String) (values : List String) : Prop where
  ascending : values.Pairwise (· < ·)
  mem_iff {text : String} :
    text ∈ values ↔
      ∃ row ∈ table.rows, (row.cell column).isBlank = false ∧ (row.cell column).display = text

/-- Rows are missing, repeat a value, or show one of the values first. -/
structure ColumnQuality.CountsValues (quality : ColumnQuality) (values : List String)
    (rows : Nat) : Prop where
  /-- No repetition is cut off at zero. -/
  within : quality.missingCount + values.length ≤ rows
  total : quality.missingCount + quality.duplicateCount + values.length = rows

variable (table : Table) (column : String)

/-- The values are the texts of the cells that are not blank, as keys in order. -/
theorem Table.allUniqueValues_eq_sortedKeys :
    table.allUniqueValues column =
      Pivot.sortedKeys
        (((table.cells column).filter fun cell => !cell.isBlank).map Cell.display) :=
  rfl

theorem Table.showsValues_allUniqueValues :
    table.ShowsValues column (table.allUniqueValues column) where
  ascending := Pivot.sortedKeys_ascending _
  mem_iff := by
    intro text
    rw [allUniqueValues_eq_sortedKeys, Pivot.mem_sortedKeys]
    simp [cells, and_assoc]

theorem Pivot.length_sortedKeys
    (keys : List String) :
    (sortedKeys keys).length = keys.eraseDups.length := by
  rw [sortedKeys, List.length_mergeSort]

theorem Pivot.length_sortedKeys_le
    (keys : List String) :
    (sortedKeys keys).length ≤ keys.length :=
  (List.subperm_of_subset (nodup_sortedKeys keys) fun _ => mem_sortedKeys.mp).length_le

variable {table column}

/-- A report and the list of values agree on how many values there are. -/
theorem Quality.Describes.countsValues
    {settings : Settings}
    {quality : ColumnQuality}
    (describes : Describes settings (table.cells column) quality) :
    quality.CountsValues (table.allUniqueValues column) table.rows.length := by
  have parts := length_filter_filled_add (table.cells column)
  have fewer := Pivot.length_sortedKeys_le
    (((table.cells column).filter fun cell => !cell.isBlank).map Cell.display)
  have listed := Pivot.length_sortedKeys
    (((table.cells column).filter fun cell => !cell.isBlank).map Cell.display)
  rw [← Table.allUniqueValues_eq_sortedKeys] at fewer listed
  rw [List.length_map] at fewer
  have rows : (table.cells column).length = table.rows.length := List.length_map _
  have missing := describes.missingCount_eq
  have repeated := describes.duplicateCount_eq
  exact ⟨by omega, by omega⟩

end Tabular
