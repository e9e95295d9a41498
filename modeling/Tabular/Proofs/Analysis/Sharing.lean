import Tabular.Proofs.Analysis.Scan
import Tabular.Proofs.Cell.Display

namespace Tabular

open List

/-!
# Rows that share a cell of a pivot

A row is aggregated into the cell of its two keys. Keys are display texts, with one text for all
missing cells, so rows come together when their cells show the same. The text of missing cells is
not kept apart from the texts that cells show, though: a cell that shows it, which only a text can,
is grouped with the missing ones.
-/

/-! ## What displays as the key of missing cells -/

namespace Cell

/-- What has a character besides those of the key of missing cells is not that key. -/
theorem ofList_ne_emptyKey
    {characters : List Char}
    (character : Char)
    (member : character ∈ characters)
    (isOther : character ∉ Pivot.emptyKey.toList) :
    String.ofList characters ≠ Pivot.emptyKey := by
  intro same
  rw [← same, String.toList_ofList] at isOther
  exact isOther member

theorem ofInt_ne_emptyKey
    (value : Int) :
    Decimal.ofInt value ≠ Pivot.emptyKey := by
  have areDigits := Decimal.isDigits_digits value.natAbs
  obtain ⟨digit, rest, isWritten⟩ := exists_cons_of_ne_nil areDigits.nonempty
  have isDigit : digit.isDigit = true := areDigits.all digit (isWritten ▸ mem_cons_self)
  have noDigits : (Pivot.emptyKey.toList.all fun character => !character.isDigit) = true := by
    decide
  refine ofList_ne_emptyKey digit ?_ fun member => ?_
  · rw [isWritten]
    split <;> simp
  · have noDigit := all_eq_true.mp noDigits digit member
    rw [isDigit] at noDigit
    cases noDigit

/-- A written number is read back, and the key of missing cells is no numeral. -/
theorem written_ne_emptyKey
    (value : Binary64) :
    value.written ≠ Pivot.emptyKey := by
  cases value with
  | nan =>
      decide
  | infinite negative =>
      cases negative <;> decide
  | finite negative significand exponent canonical =>
      intro same
      have isFinite : (Binary64.finite negative significand exponent canonical).isFinite = true :=
        rfl
      have isRead := Binary64.read?_written isFinite
      have noNumeral : Decimal.read? Pivot.emptyKey.toList = none := by decide +kernel
      rw [same, noNumeral] at isRead
      cases isRead

theorem displayFloat_ne_emptyKey
    (value : Binary64) :
    displayFloat value ≠ Pivot.emptyKey := by
  rw [displayFloat]
  split
  · split
    · exact ofInt_ne_emptyKey _
    · exact written_ne_emptyKey value
  · split
    · decide
    · exact written_ne_emptyKey value

/-- Only a text displays as the key of missing cells. -/
theorem display_eq_emptyKey_iff
    {cell : Cell} :
    cell.display = Pivot.emptyKey ↔ cell = .text Pivot.emptyKey := by
  constructor
  · intro same
    cases cell with
    | null =>
        exact absurd same (by decide)
    | bool value =>
        cases value <;> exact absurd same (by decide)
    | int value =>
        exact absurd same (ofInt_ne_emptyKey value)
    | float value =>
        exact absurd same (displayFloat_ne_emptyKey value)
    | text value =>
        exact congrArg text same
    | date value =>
        refine absurd same (ofList_ne_emptyKey '-' ?_ (by decide))
        simp [Calendar.Date.written]
    | moment value =>
        refine absurd same (ofList_ne_emptyKey ':' ?_ (by decide))
        simp [Calendar.Clock.written]
  · rintro rfl
    rfl

/-! ## Keys of cells -/

/-- Both cells are missing, or neither is and they show the same text. -/
def ShowAlike (left right : Cell) : Prop :=
  left.isMissing = true ∧ right.isMissing = true ∨
    left.isMissing = false ∧ right.isMissing = false ∧ left.display = right.display

/-- One cell is missing, and the other is the very text that stands for missing cells. -/
def MixedUp (left right : Cell) : Prop :=
  left.isMissing = true ∧ right = .text Pivot.emptyKey ∨
    left = .text Pivot.emptyKey ∧ right.isMissing = true

end Cell

/-- Cells have the same key when they show the same, or when a text is taken for a missing cell. -/
theorem Pivot.keyOf_eq_keyOf_iff
    {left right : Cell} :
    keyOf left = keyOf right ↔ left.ShowAlike right ∨ left.MixedUp right := by
  cases isLeft : left.isMissing with
  | true =>
      cases isRight : right.isMissing with
      | true =>
          simp [keyOf, Cell.ShowAlike, isLeft, isRight]
      | false =>
          have textIsKey : emptyKey = right.display ↔ right = .text emptyKey :=
            eq_comm.trans Cell.display_eq_emptyKey_iff
          simp [keyOf, Cell.ShowAlike, Cell.MixedUp, isLeft, isRight, textIsKey]
  | false =>
      cases isRight : right.isMissing with
      | true =>
          simp [keyOf, Cell.ShowAlike, Cell.MixedUp, isLeft, isRight, Cell.display_eq_emptyKey_iff]
      | false =>
          simp [keyOf, Cell.ShowAlike, Cell.MixedUp, isLeft, isRight]

/-! ## Places of rows -/

namespace Pivot

/-- The keys of the cell that a row is aggregated into; none without a row field. -/
def placeOf? (config : PivotConfig) (row : Row) : Option (String × String) :=
  (chosen config.rowField).map fun rowField =>
    (rowKey rowField row, columnKey config.columnField row)

end Pivot

/-- Two rows are aggregated into the same cell. -/
def PivotConfig.Gathers (config : PivotConfig) (first second : Row) : Prop :=
  ∃ place, Pivot.placeOf? config first = some place ∧ Pivot.placeOf? config second = some place

/-- The cells of two rows in a chosen field are related. -/
def Row.RelatedIn (related : Cell → Cell → Prop) (field : Option String) (first second : Row) :
    Prop :=
  ∀ name, Pivot.chosen field = some name → related (first.cell name) (second.cell name)

/--
The rows of a table are gathered in the cells of a pivot: each row has its place in the grid, and
every cell of the grid is the rounded aggregate of the numbers of just the rows with this place, in
their order.
-/
structure PivotResult.GathersRows
    (digits : Int)
    (config : PivotConfig)
    (rows : List Row)
    (result : PivotResult) :
    Prop where
  has_place :
    ∀ row ∈ rows, ∀ place, Pivot.placeOf? config row = some place →
      place.1 ∈ result.rows ∧ place.2 ∈ result.columns
  amount_eq :
    ∀ row ∈ result.rows, ∀ column ∈ result.columns, ∃ amount,
      (Pivot.aggregateOf config.aggregation.apply
          ((rows.filter fun gathered =>
              Pivot.placeOf? config gathered = some (row, column)).filterMap
            (Pivot.contribution? config.valueField))).roundHalfUp digits = .ok amount ∧
        result.amountAt? row column = some amount

/-- A pivot by scans gathers the rows that it scans. -/
theorem PivotResult.IsScan.gathersRows
    {digits : Int}
    {config : PivotConfig}
    {rowField : String}
    {rows : List Row}
    {result : PivotResult}
    (isChosen : Pivot.chosen config.rowField = some rowField)
    (isScan : result.IsScan digits config.aggregation.apply config rowField rows) :
    result.GathersRows digits config rows where
  has_place row member place isPlace := by
    rw [Pivot.placeOf?, isChosen] at isPlace
    cases isPlace
    exact ⟨(isScan.mem_rows _).mpr ⟨row, member, rfl⟩,
      (isScan.mem_columns _).mpr ⟨row, member, rfl⟩⟩
  amount_eq row isRow column isColumn := by
    have samePlaces :
        (fun gathered => decide (Pivot.placeOf? config gathered = some (row, column))) =
          fun gathered =>
            decide (Pivot.rowKey rowField gathered = row ∧
              Pivot.columnKey config.columnField gathered = column) := by
      funext gathered
      simp [Pivot.placeOf?, isChosen]
    rw [samePlaces]
    exact isScan.grid.amount_eq row isRow column isColumn

/-- A pivot of a table gathers the rows of the table. -/
theorem gathersRows_of_createPivot
    {settings : Settings}
    {config : PivotConfig}
    {table : Table}
    {result : PivotResult}
    (created : createPivot settings config table = .ok result) :
    result.GathersRows settings.pivotDecimals config table.rows := by
  cases isChosen : Pivot.chosen config.rowField with
  | none =>
      rw [createPivot_of_not_chosen isChosen] at created
      cases created
      constructor
      · intro row member place isPlace
        rw [Pivot.placeOf?, isChosen] at isPlace
        cases isPlace
      · intro row isRow
        cases isRow
  | some rowField =>
      by_cases isEmpty : table.rows = []
      · rw [createPivot_of_no_rows isEmpty] at created
        cases created
        rw [isEmpty]
        constructor
        · intro row member
          cases member
        · intro row isRow
          cases isRow
      · rw [createPivot, createPivotWith_eq_ok_iff_isScan isChosen isEmpty] at created
        exact created.2.gathersRows isChosen

/-- Rows are gathered by the keys of their cells in the chosen fields. -/
theorem PivotConfig.gathers_iff
    {config : PivotConfig}
    {first second : Row} :
    config.Gathers first second ↔
      Pivot.chosen config.rowField ≠ none ∧
        Row.RelatedIn (fun left right => Pivot.keyOf left = Pivot.keyOf right)
            config.rowField first second ∧
          Row.RelatedIn (fun left right => Pivot.keyOf left = Pivot.keyOf right)
            config.columnField first second := by
  have sameColumn :
      Pivot.columnKey config.columnField second = Pivot.columnKey config.columnField first ↔
        Row.RelatedIn (fun left right => Pivot.keyOf left = Pivot.keyOf right)
          config.columnField first second := by
    cases isColumn : Pivot.chosen config.columnField with
    | none =>
        simp [Row.RelatedIn, Pivot.columnKey, isColumn]
    | some columnField =>
        simp [Row.RelatedIn, Pivot.columnKey, isColumn, eq_comm]
  rw [← sameColumn]
  cases isRow : Pivot.chosen config.rowField with
  | none =>
      simp [Gathers, Pivot.placeOf?, isRow]
  | some rowField =>
      simp [Gathers, Pivot.placeOf?, Pivot.rowKey, Row.RelatedIn, isRow, eq_comm]

/--
A pivot aggregates two rows into the same cell exactly when, in the row field and in the column
field if there is one, their cells show alike or are mixed up: missing cells come together, and so
do cells that show the same text, but the text that stands for missing cells comes with these.
-/
theorem rows_share_cells_iff
    {settings : Settings}
    {config : PivotConfig}
    {table : Table}
    {result : PivotResult}
    (created : createPivot settings config table = .ok result) :
    result.GathersRows settings.pivotDecimals config table.rows ∧
      ∀ first second : Row,
        config.Gathers first second ↔
          Pivot.chosen config.rowField ≠ none ∧
            Row.RelatedIn (fun left right => left.ShowAlike right ∨ left.MixedUp right)
                config.rowField first second ∧
              Row.RelatedIn (fun left right => left.ShowAlike right ∨ left.MixedUp right)
                config.columnField first second := by
  refine ⟨gathersRows_of_createPivot created, fun first second => ?_⟩
  simp only [PivotConfig.gathers_iff, Pivot.keyOf_eq_keyOf_iff]

namespace Pivot.Sample

/-- A visitor whose town is not known. -/
def stranger : Row :=
  .ofList [("town", .null)]

/-- A visitor whose town is written in brackets. -/
def bracketed : Row :=
  .ofList [("town", .text "(Empty)")]

/-- How many visitors there are from each town. -/
def byTown : PivotConfig where
  rowField := some "town"

/-- Both visitors are counted among those whose town is not known. -/
def visitorsByTown : PivotResult where
  rows := ["(Empty)"]
  columns := ["Total"]
  cells := .ofList [("(Empty)", .ofList [("Total", .ofCount 2)])]
  rowTotals := .ofList [("(Empty)", .ofCount 2)]
  columnTotals := .ofList [("Total", .ofCount 2)]
  grandTotal := .ofCount 2

/-- The stranger shares a cell with a visitor whose town is known. -/
theorem stranger_shares_cell :
    createPivot {} byTown (.ofRows (some "visitors") [stranger, bracketed]) =
        .ok visitorsByTown ∧
      visitorsByTown.GathersRows 2 byTown [stranger, bracketed] ∧
      byTown.Gathers stranger bracketed ∧
      ¬(stranger.cell "town").ShowAlike (bracketed.cell "town") := by
  have created :
      createPivot {} byTown (.ofRows (some "visitors") [stranger, bracketed]) =
        .ok visitorsByTown := by
    decide +kernel
  obtain ⟨gathersRows, gathers⟩ := rows_share_cells_iff created
  have isMixedUp : (stranger.cell "town").MixedUp (bracketed.cell "town") := .inl ⟨rfl, rfl⟩
  have together : byTown.Gathers stranger bracketed := by
    refine (gathers stranger bracketed).mpr ⟨nofun, ?_, nofun⟩
    rintro _ ⟨rfl⟩
    exact .inr isMixedUp
  refine ⟨created, gathersRows, together, ?_⟩
  rintro (⟨-, isMissing⟩ | ⟨isPresent, -⟩)
  · exact absurd isMissing (by decide)
  · exact absurd isPresent (by decide)

end Pivot.Sample

end Tabular
