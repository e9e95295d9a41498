import Tabular.Change.Cleaning
import Tabular.Proofs.Assoc
import Tabular.Proofs.Outcome

namespace Tabular

/-!
# The columns of tables

A table that is read from rows has the keys of its first row as its columns, and so have the rows
that its types are inferred from. Inferring them finds a type for each of these columns and for
nothing else. Removing repeated rows never removes the first one, so it leaves the columns.
-/

/-! ## What is found for columns -/

/-- Describing columns that are new to a map appends them to its keys. -/
theorem keys_foldlM_insert
    {α : Type}
    {find : String → Outcome α}
    {columns : List String}
    (map : Assoc α)
    (distinct : (map.keys ++ columns).Nodup)
    {answer : Assoc α}
    (answered :
      columns.foldlM (fun found column => (find column).map (found.insert column)) map =
        .ok answer) :
    answer.keys = map.keys ++ columns := by
  induction columns generalizing map with
  | nil =>
      cases Outcome.pure_eq_ok_iff.mp answered
      simp
  | cons column rest inductionHypothesis =>
      rw [List.foldlM_cons, Outcome.bind_eq_ok_iff] at answered
      obtain ⟨extended, isExtended, answered⟩ := answered
      cases found : find column with
      | error fault =>
          rw [found] at isExtended
          exact absurd isExtended nofun
      | ok value =>
          rw [found] at isExtended
          cases isExtended
          have absent : column ∉ map.entries.map Prod.fst := by
            intro member
            exact (List.nodup_append.mp distinct).2.2 column member column (by simp) rfl
          have extendedKeys : (map.insert column value).keys = map.keys ++ [column] := by
            simp [Assoc.keys, Assoc.insert, Assoc.storeEntry_of_not_mem absent]
          rw [inductionHypothesis (map.insert column value)
              (by simpa [extendedKeys] using distinct) answered,
            extendedKeys, List.append_assoc, List.singleton_append]

/-- What is found for columns is found for each of them, in their order. -/
theorem keys_of_describeColumns
    {α : Type}
    {find : String → Outcome α}
    {columns : List String}
    (distinct : columns.Nodup)
    {answer : Assoc α}
    (answered : describeColumns find columns = .ok answer) :
    answer.keys = columns :=
  keys_foldlM_insert .empty (by simpa [Assoc.keys, Assoc.empty] using distinct) answered

theorem columnsOf_nodup
    (rows : List Row) :
    (columnsOf rows).Nodup := by
  cases rows with
  | nil =>
      exact List.nodup_nil
  | cons first rest =>
      exact first.distinct

/-! ## Repeated rows -/

namespace Frame

/-- A line that repeats an earlier one is listed with its own place. -/
theorem le_of_mem_repeatedFrom
    {earlier : List (List Cell)}
    {index place : Nat}
    {lines : List (List Cell)}
    (member : place ∈ repeatedFrom earlier index lines) :
    index ≤ place := by
  induction lines generalizing earlier index with
  | nil =>
      exact absurd member List.not_mem_nil
  | cons line rest inductionHypothesis =>
      rw [repeatedFrom] at member
      split at member
      · rcases List.mem_cons.mp member with rfl | later
        · exact Nat.le_refl _
        · exact Nat.le_of_succ_le (inductionHypothesis later)
      · exact Nat.le_of_succ_le (inductionHypothesis member)

/-- The first line repeats none. -/
theorem zero_notMem_repeatedFrom
    (lines : List (List Cell)) :
    0 ∉ repeatedFrom [] 0 lines := by
  intro member
  cases lines with
  | nil =>
      exact absurd member List.not_mem_nil
  | cons line rest =>
      have later : 1 ≤ 0 := le_of_mem_repeatedFrom member
      exact absurd later (by decide)

end Frame

theorem zero_notMem_duplicateIndices
    {rows : List Row}
    {columns : List String}
    {places : List Nat}
    (answered : duplicateIndices rows columns = .ok places) :
    0 ∉ places := by
  rw [duplicateIndices] at answered
  split at answered
  · cases answered
    exact List.not_mem_nil
  · obtain ⟨lines, -, isRepeated⟩ := Outcome.bind_eq_ok_iff.mp answered
    cases isRepeated
    exact Frame.zero_notMem_repeatedFrom lines

/-- Rows that keep their first one keep their columns. -/
theorem columnsOf_dropPlaces
    {places : List Nat}
    (firstStays : 0 ∉ places)
    (rows : List Row) :
    columnsOf (dropPlaces places 0 rows) = columnsOf rows := by
  cases rows with
  | nil =>
      rfl
  | cons first rest =>
      rw [dropPlaces, if_neg (by simpa using firstStays)]
      rfl

/-- Removing repeated rows gives the table other rows of the same columns. -/
theorem derive_of_removeDuplicateRows
    {table distinct : Table}
    (answered : removeDuplicateRows table = .ok distinct) :
    ∃ rows, distinct = table.derive rows ∧ columnsOf rows = columnsOf table.rows := by
  rw [removeDuplicateRows] at answered
  split at answered
  · cases answered
    exact ⟨table.rows, rfl, rfl⟩
  · obtain ⟨places, isListed, isDerived⟩ := Outcome.bind_eq_ok_iff.mp answered
    cases isDerived
    exact ⟨_, rfl, columnsOf_dropPlaces (zero_notMem_duplicateIndices isListed) table.rows⟩

/-! ## Tables that show the columns of their rows -/

/-- The columns of a table are those of its rows, and of the rows that it is typed by. -/
structure Table.IsRegular (table : Table) : Prop where
  columns_eq : table.columns = columnsOf table.rows
  typeRows : ∃ rows, table.typeSource = .inferred rows ∧ columnsOf rows = table.columns

namespace Table.IsRegular

theorem ofRows
    (name : Option String)
    (rows : List Row) :
    (Table.ofRows name rows).IsRegular :=
  ⟨rfl, rows, rfl, rfl⟩

theorem derive
    {table : Table}
    (regular : table.IsRegular)
    {rows : List Row}
    (sameColumns : columnsOf rows = columnsOf table.rows) :
    (table.derive rows).IsRegular :=
  ⟨regular.columns_eq.trans sameColumns.symm, regular.typeRows⟩

/-- The types of a table are those of its columns. -/
theorem keys_types
    {table : Table}
    (regular : table.IsRegular)
    {settings : Settings}
    {types : Assoc ColumnType}
    (inferred : table.types settings = .ok types) :
    types.keys = table.columns := by
  obtain ⟨rows, isInferred, sameColumns⟩ := regular.typeRows
  rw [Table.types, isInferred] at inferred
  rw [← sameColumns]
  exact keys_of_describeColumns (columnsOf_nodup rows) inferred

end Table.IsRegular

end Tabular
