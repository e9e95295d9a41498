import Tabular.Number.Summation
import Tabular.Slice
import Tabular.Table.Basic

namespace Tabular

/-!
# Statistics of columns

Summary statistics of the numbers in a column, the different values of a column in order, and the
totals of the number columns of a table.
-/

/-- The statistics of a column with numbers. -/
structure ColumnStats where
  count : Nat
  sum : Amount
  least : Amount
  greatest : Amount
  average : Amount
  median : Amount
  /-- The most frequent number; none when no number repeats. -/
  mode : Option Amount
  /-- The population standard deviation; none for a single number. -/
  deviation : Option Amount
  /-- How many numbers lie in each of ten equal parts of the range. -/
  distribution : List Nat

namespace Statistics

/-- The number of parts of a distribution. -/
def bucketCount : Nat := 10

/-- The numbers among cells. -/
def numbersOf : List Cell → Outcome (List Binary64)
  | [] => .ok []
  | cell :: rest => do
      let number ← if cell.isBlank then .ok none else cell.number?
      let others ← numbersOf rest
      match number with
      | some number => return number :: others
      | none => return others

/-- How often numbers have been seen, and which one was the first to be seen most often. -/
structure Tally where
  counts : List (Binary64 × Nat) := []
  best : Option Binary64 := none
  bestCount : Nat := 0

namespace Tally

/-- How often a number has been seen. -/
def countOf (tally : Tally) (value : Binary64) : Nat :=
  ((tally.counts.find? fun entry => entry.1.eqv value).map Prod.snd).getD 0

/-- The counts with one more occurrence of a number. -/
def raise (value : Binary64) : List (Binary64 × Nat) → List (Binary64 × Nat)
  | [] => [(value, 1)]
  | (seen, count) :: rest =>
      if seen.eqv value then (seen, count + 1) :: rest else (seen, count) :: raise value rest

/-- The tally after one more number. -/
def step (tally : Tally) (value : Binary64) : Tally :=
  let count := tally.countOf value + 1
  let counts := raise value tally.counts
  if tally.bestCount < count then { counts, best := some value, bestCount := count }
  else { tally with counts }

end Tally

/-- The most frequent number, the first to reach its count; none when no number repeats. -/
def mode (values : List Binary64) : Option Binary64 :=
  let tally := values.foldl Tally.step {}
  if 1 < tally.bestCount then tally.best else none

/-- The part of the range that a number lies in. -/
def bucketOf (low size value : Binary64) : Outcome Int := do
  let place ← Amount.floorOf ((value.sub low).div size)
  return min place (bucketCount - 1)

/-- The size of the parts of a range; one when the range is a single number. -/
def bucketSize (low high : Binary64) : Binary64 :=
  let size := (high.sub low).div (Binary64.ofNat bucketCount)
  if size.isZero then Binary64.ofNat 1 else size

/-- How many numbers lie in each part of the range between the least and the greatest. -/
def distribution (values : List Binary64) (low high : Binary64) : Outcome (List Nat) := do
  let buckets ← values.mapM (bucketOf low (bucketSize low high))
  return (List.range bucketCount).map fun (index : Nat) =>
    (buckets.filter (· == (index : Int))).length

/-- An optional number rounded to two places. -/
def roundOptional (value : Option Binary64) : Outcome (Option Amount) := do
  match value with
  | some value => return some (← value.roundHalfUp 2)
  | none => return none

/-- The statistics of numbers, of which there must be some. -/
def ofNumbers (values : List Binary64) : Outcome ColumnStats := do
  let low := Summation.least values
  let high := Summation.greatest values
  let deviation := if 2 ≤ values.length then some (Summation.standardDeviation values) else none
  return {
    count := values.length
    sum := ← (Summation.pairwise values).roundHalfUp 2
    least := ← low.roundHalfUp 2
    greatest := ← high.roundHalfUp 2
    average := ← (Summation.mean values).roundHalfUp 2
    median := ← (Summation.median values).roundHalfUp 2
    mode := ← roundOptional (mode values)
    deviation := ← roundOptional deviation
    distribution := ← distribution values low high }

end Statistics

namespace Table

/-- The statistics of a column; none when it has no numbers. -/
def columnStats (table : Table) (column : String) : Outcome (Option ColumnStats) := do
  match ← Statistics.numbersOf (table.cells column) with
  | [] => return none
  | values => return some (← Statistics.ofNumbers values)

/-- The display texts of the cells of a column that hold a value, each once, in order. -/
def allUniqueValues (table : Table) (column : String) : List String :=
  (((table.cells column).filter fun cell => !cell.isBlank).map Cell.display).eraseDups.mergeSort
    fun left right => !(right < left)

/-- The number that a cell adds to a total; cells that are no numbers add nothing. -/
def summand (cell : Cell) : Outcome Amount := do
  match ← cell.number? with
  | some number => return .real (if number.isZero then Binary64.zero false else number)
  | none => return .real (Binary64.zero false)

/-- The total of a column, rounded to two places. -/
def columnSum (table : Table) (column : String) : Outcome Amount := do
  let sum ← Amount.sum (← (table.cells column).mapM summand)
  sum.roundHalfUp 2

/-- The totals of the columns that are numbers by the given types. -/
def columnSumsFor (table : Table) (types : Assoc ColumnType) : Outcome (Assoc Amount) :=
  (table.columns.filter fun column => types.find? column == some .number).foldlM
    (fun sums column => (table.columnSum column).map (sums.insert column)) .empty

/-- The totals of the number columns. -/
def columnSums (settings : Settings) (table : Table) : Outcome (Assoc Amount) := do
  table.columnSumsFor (← table.types settings)

end Table

end Tabular
