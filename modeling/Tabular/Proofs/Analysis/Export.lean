import Mathlib.Data.Finset.Card
import Tabular.Proofs.Analysis.Scan

namespace Tabular

open List

/-!
# Exported pivots

An exported line tells a label, amounts and a total, each under a name: the row field, the keys of
the columns and the name of totals. A line keeps one value for each name, the one that is stored
last. So a pivot is exported in full when its names are apart, and otherwise every line is short of
something: the label where a column is called like the row field, or one of the amounts where a
column is called like the totals.
-/

/-! ## Names of entries -/

namespace Assoc

variable {α : Type}

theorem mem_keys_ofList
    {entries : List (String × α)}
    {key : String} :
    key ∈ (ofList entries).keys ↔ key ∈ entries.map Prod.fst := by
  have storing (map : Assoc α) :
      key ∈ (entries.foldl (fun built entry => built.insert entry.1 entry.2) map).keys ↔
        key ∈ map.keys ∨ key ∈ entries.map Prod.fst := by
    induction entries generalizing map with
    | nil =>
        simp
    | cons entry rest inductionHypothesis =>
        rw [foldl_cons, inductionHypothesis, map_cons, mem_cons, ← or_assoc]
        refine or_congr_left ?_
        exact mem_keys_storeEntry.trans or_comm
  simpa [ofList, keys, empty] using storing empty

/-- Storing entries loses none of them exactly when their names are apart. -/
theorem size_ofList_eq_length_iff
    {entries : List (String × α)} :
    (ofList entries).size = entries.length ↔ (entries.map Prod.fst).Nodup := by
  have sameNames : (ofList entries).keys.toFinset = (entries.map Prod.fst).toFinset := by
    ext key
    rw [mem_toFinset, mem_toFinset, mem_keys_ofList]
  have sizes : (ofList entries).size = (entries.map Prod.fst).toFinset.card := by
    rw [← sameNames, keys, toFinset_card_of_nodup (ofList entries).distinct, size, length_map]
  constructor
  · intro sameSize
    rw [sizes, ← length_map Prod.fst] at sameSize
    exact Multiset.toFinset_card_eq_card_iff_nodup.mp sameSize
  · intro distinct
    rw [size, entries_ofList distinct]

/-- Entries whose names are apart are all found. -/
theorem find?_ofList_of_mem
    {entries : List (String × α)}
    (distinct : (entries.map Prod.fst).Nodup)
    {key : String}
    {value : α}
    (member : (key, value) ∈ entries) :
    (ofList entries).find? key = some value := by
  rw [find?_eq_some_iff, entries_ofList distinct]
  exact member

end Assoc

namespace PivotResult

/-! ## Exported lines -/

section

variable (rowField label : String) (cells : Assoc Amount) (total : Amount)

/-- What a line tells: the label, the amounts in the order of the columns, and the total. -/
def lineEntries : List (String × Cell) :=
  (rowField, .text label) :: cells.entries.map (fun entry => (entry.1, entry.2.toCell)) ++
    [(Pivot.totalKey, total.toCell)]

/-- A line stores what it tells in turn. -/
theorem exportLine_eq_ofList :
    exportLine rowField label cells total =
      Assoc.ofList (lineEntries rowField label cells total) := by
  simp only [exportLine, Assoc.ofList, lineEntries, foldl_append, foldl_map, foldl_cons, foldl_nil]

theorem names_lineEntries :
    (lineEntries rowField label cells total).map Prod.fst =
      rowField :: (cells.keys ++ [Pivot.totalKey]) := by
  simp [lineEntries, Assoc.keys]

end

/-- The names of a line are apart: its row field, the keys of its columns and the name of totals. -/
def NamesApart (rowField : String) (columns : List String) : Prop :=
  rowField ≠ Pivot.totalKey ∧ rowField ∉ columns ∧ Pivot.totalKey ∉ columns

theorem namesApart_iff
    {rowField : String}
    {columns : List String}
    (distinct : columns.Nodup) :
    NamesApart rowField columns ↔ (rowField :: (columns ++ [Pivot.totalKey])).Nodup := by
  have totalIsNew : (columns ++ [Pivot.totalKey]).Nodup ↔ Pivot.totalKey ∉ columns := by
    rw [nodup_append_comm, singleton_append, nodup_cons]
    exact and_iff_left distinct
  rw [NamesApart, nodup_cons, totalIsNew, mem_append, mem_singleton, not_or]
  tauto

/--
A line tells its label under the row field, its amounts under the keys of the columns and its total
under the name of totals, so it has two entries more than there are columns.
-/
structure LineTells
    (rowField label : String)
    (columns : List String)
    (amountAt? : String → Option Amount)
    (total? : Option Amount)
    (line : Row) :
    Prop where
  label_eq : line.find? rowField = some (.text label)
  amount_eq :
    ∀ column ∈ columns, ∃ amount,
      amountAt? column = some amount ∧ line.find? column = some amount.toCell
  total_eq :
    ∃ total, total? = some total ∧ line.find? Pivot.totalKey = some total.toCell
  size_eq : line.size = columns.length + 2

/-- A line tells everything exactly when its names are apart. -/
theorem lineTells_exportLine_iff
    (rowField label : String)
    (cells : Assoc Amount)
    (total : Amount) :
    LineTells rowField label cells.keys cells.find? (some total)
        (exportLine rowField label cells total) ↔
      NamesApart rowField cells.keys := by
  have length : (lineEntries rowField label cells total).length = cells.keys.length + 2 := by
    simp [lineEntries, Assoc.keys]
  have names := names_lineEntries rowField label cells total
  have apart : NamesApart rowField cells.keys ↔ _ := namesApart_iff cells.distinct
  rw [apart, ← names, exportLine_eq_ofList]
  constructor
  · intro tells
    exact Assoc.size_ofList_eq_length_iff.mp (tells.size_eq.trans length.symm)
  · intro distinct
    refine ⟨?_, ?_, ?_, ?_⟩
    · exact Assoc.find?_ofList_of_mem distinct (by simp [lineEntries])
    · intro column isColumn
      obtain ⟨amount, found⟩ := Assoc.mem_keys_iff.mp isColumn
      refine ⟨amount, found, Assoc.find?_ofList_of_mem distinct ?_⟩
      have stored := Assoc.find?_eq_some_iff.mp found
      simp only [lineEntries, mem_append, mem_cons, mem_map]
      exact .inl (.inr ⟨_, stored, rfl⟩)
    · exact ⟨total, rfl, Assoc.find?_ofList_of_mem distinct (by simp [lineEntries])⟩
    · exact (Assoc.size_ofList_eq_length_iff.mpr distinct).trans length

/-! ## Exports -/

/--
An export tells all of a pivot: a line for each row in order, with the key of the row as its label,
and a last line for the totals.
-/
structure ExportsAll (rowField : String) (result : PivotResult) (lines : List Row) : Prop where
  length_eq : lines.length = result.rows.length + 1
  row_told :
    ∀ (place : Nat) (key : String), result.rows[place]? = some key → ∃ line,
      lines[place]? = some line ∧
        LineTells rowField key result.columns (result.amountAt? key)
          (result.rowTotals.find? key) line
  totals_told :
    ∃ line, lines.getLast? = some line ∧
      LineTells rowField Pivot.totalKey result.columns result.columnTotals.find?
        (some result.grandTotal) line

variable
    {digits : Int}
    {aggregate : List Binary64 → Binary64}
    {config : PivotConfig}
    {rowField : String}
    {rows : List Row}
    {result : PivotResult}

/-- The line of a row of the grid tells everything exactly when the names are apart. -/
theorem IsScan.lineTells_iff
    (isScan : result.IsScan digits aggregate config rowField rows)
    {key : String}
    (isKey : key ∈ result.rows) :
    LineTells rowField key result.columns (result.amountAt? key) (result.rowTotals.find? key)
        (exportLine rowField key ((result.cells.find? key).getD .empty)
          ((result.rowTotals.find? key).getD (.whole 0))) ↔
      NamesApart rowField result.columns := by
  obtain ⟨line, found⟩ := Assoc.mem_keys_iff.mp (isScan.grid.cells_keys ▸ isKey)
  obtain ⟨-, total, -, -, isTotal⟩ := isScan.grid.rowTotals.total_eq key isKey
  have areColumns := isScan.grid.line_keys key line found
  have amounts : result.amountAt? key = line.find? := by
    funext column
    rw [amountAt?, found, Option.bind_some]
  rw [found, isTotal, Option.getD_some, Option.getD_some, amounts, ← areColumns]
  exact lineTells_exportLine_iff rowField key line total

/-- The line of the totals tells everything exactly when the names are apart. -/
theorem IsScan.totalsTold_iff
    (isScan : result.IsScan digits aggregate config rowField rows) :
    LineTells rowField Pivot.totalKey result.columns result.columnTotals.find?
        (some result.grandTotal)
        (exportLine rowField Pivot.totalKey result.columnTotals result.grandTotal) ↔
      NamesApart rowField result.columns := by
  rw [← isScan.grid.columnTotals.keys_eq]
  exact lineTells_exportLine_iff rowField Pivot.totalKey result.columnTotals result.grandTotal

/-- A pivot with rows is exported in full exactly when the names of its lines are apart. -/
theorem IsScan.exportsAll_iff
    (isScan : result.IsScan digits aggregate config rowField rows)
    (nonempty : rows ≠ []) :
    result.ExportsAll rowField (result.exportRows rowField) ↔
      NamesApart rowField result.columns := by
  obtain ⟨row, rest, rfl⟩ := exists_cons_of_ne_nil nonempty
  have isKey : Pivot.rowKey rowField row ∈ result.rows :=
    (isScan.mem_rows _).mpr ⟨row, mem_cons_self, rfl⟩
  have hasRows : result.rows.isEmpty = false := isEmpty_eq_false_iff.mpr (ne_nil_of_mem isKey)
  rw [exportRows, hasRows, if_neg Bool.false_ne_true]
  constructor
  · intro exportsAll
    obtain ⟨line, isLast, told⟩ := exportsAll.totals_told
    rw [getLast?_concat, Option.some.injEq] at isLast
    exact isScan.totalsTold_iff.mp (isLast ▸ told)
  · intro apart
    refine ⟨by simp, fun place key isPlace => ?_, ?_⟩
    · have inRange : place < result.rows.length := (List.getElem?_eq_some_iff.mp isPlace).1
      refine ⟨_, ?_, (isScan.lineTells_iff (mem_of_getElem? isPlace)).mpr apart⟩
      rw [getElem?_append_left (by rwa [length_map]), getElem?_map, isPlace]
      rfl
    · exact ⟨_, getLast?_concat, isScan.totalsTold_iff.mpr apart⟩

end PivotResult

/--
A pivot of a table with rows is exported in full exactly when the row field is not called like the
totals, no column is called like the row field, and none like the totals.
-/
theorem exports_all_iff
    (settings : Settings)
    (config : PivotConfig)
    (table : Table)
    (rowField : String)
    (result : PivotResult)
    (isChosen : Pivot.chosen config.rowField = some rowField)
    (nonempty : table.rows ≠ [])
    (created : createPivot settings config table = .ok result) :
    result.ExportsAll rowField (result.exportRows rowField) ↔
      rowField ≠ Pivot.totalKey ∧ rowField ∉ result.columns ∧ Pivot.totalKey ∉ result.columns := by
  rw [createPivot, createPivotWith_eq_ok_iff_isScan isChosen nonempty] at created
  exact created.2.exportsAll_iff nonempty

namespace Pivot.Sample

/-- A place whose kind is called like the field that its name is in. -/
def places : Table :=
  .ofRows (some "places") [.ofList [("city", .text "Oslo"), ("kind", .text "city")]]

/-- How many places of each kind there are. -/
def byCity : PivotConfig where
  rowField := some "city"
  columnField := some "kind"

/-- There is one place of the kind. -/
def placesByCity : PivotResult where
  rows := ["Oslo"]
  columns := ["city"]
  cells := .ofList [("Oslo", .ofList [("city", .real (.ofNat 1))])]
  rowTotals := .ofList [("Oslo", .real (.ofNat 1))]
  columnTotals := .ofList [("city", .real (.ofNat 1))]
  grandTotal := .real (.ofNat 1)

/-- The export of the places has lost their names, and the line of the totals is like the other. -/
theorem names_of_places_are_lost :
    chosen byCity.rowField = some "city" ∧
      places.rows ≠ [] ∧
      createPivot {} byCity places = .ok placesByCity ∧
      placesByCity.exportRows "city" =
        [ .ofList [("city", .float (.ofNat 1)), ("Total", .float (.ofNat 1))],
          .ofList [("city", .float (.ofNat 1)), ("Total", .float (.ofNat 1))] ] ∧
      ¬placesByCity.ExportsAll "city" (placesByCity.exportRows "city") := by
  have isChosen : chosen byCity.rowField = some "city" := by decide
  have nonempty : places.rows ≠ [] := by decide
  have created : createPivot {} byCity places = .ok placesByCity := by decide +kernel
  refine ⟨isChosen, nonempty, created, by decide +kernel, fun exportsAll => ?_⟩
  have apart :=
    (exports_all_iff {} byCity places "city" placesByCity isChosen nonempty created).mp exportsAll
  exact apart.2.1 mem_cons_self

end Pivot.Sample

end Tabular
