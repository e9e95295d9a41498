import Tabular.Proofs.Assoc
import Tabular.Proofs.Cell.Reading
import Tabular.Proofs.Filter.Evaluation
import Tabular.Table.Basic

namespace Tabular

/-!
# Describing tables

What becomes of a table when the types and the kinds of its columns are found out.
-/

/-!
## Tables that cannot be described

Types and kinds of columns are found out by arithmetic, so finding them out fails for no other cause
than arithmetic that leaves its range. Types fail for integers that have no nearest binary64 number
only; kinds fail where counts of cells or shares of them leave the range.
-/

/-- Arithmetic has left its range. -/
def Fault.IsArithmetic (fault : Fault) : Prop :=
  fault = .overflow ∨ fault = .notANumber

/-! ## Amounts -/

namespace Amount

theorem realOfInt_failsOnly
    (value : Int) :
    (realOfInt value).FailsOnly Fault.IsArithmetic := by
  unfold realOfInt
  split
  · exact .error (.inl rfl)
  · exact .ok _

theorem toReal_failsOnly
    (amount : Amount) :
    amount.toReal.FailsOnly Fault.IsArithmetic := by
  cases amount with
  | whole value =>
      exact realOfInt_failsOnly value
  | real value =>
      exact .ok value

theorem add_failsOnly
    (left right : Amount) :
    (left.add right).FailsOnly Fault.IsArithmetic := by
  unfold add
  split
  · exact .ok _
  · exact (toReal_failsOnly _).bind fun _ => (toReal_failsOnly _).bind fun _ => .ok _

theorem mul_failsOnly
    (left right : Amount) :
    (left.mul right).FailsOnly Fault.IsArithmetic := by
  unfold mul
  split
  · exact .ok _
  · exact (toReal_failsOnly _).bind fun _ => (toReal_failsOnly _).bind fun _ => .ok _

theorem floorOf_failsOnly
    (value : Binary64) :
    (floorOf value).FailsOnly Fault.IsArithmetic := by
  unfold floorOf
  split
  · exact .ok _
  · refine .error ?_
    split
    · exact .inr rfl
    · exact .inl rfl

theorem scaleBack_failsOnly
    (value : Int)
    (factor : Amount) :
    (scaleBack value factor).FailsOnly Fault.IsArithmetic := by
  cases factor with
  | whole factor =>
      rw [scaleBack, quotient]
      split
      · exact .error (.inl rfl)
      · exact .ok _
  | real factor =>
      exact (realOfInt_failsOnly value).bind fun _ => .ok _

theorem roundFinite_failsOnly
    (amount : Amount)
    (digits : Int) :
    (amount.roundFinite digits).FailsOnly Fault.IsArithmetic := by
  refine (mul_failsOnly _ _).bind fun _ => (add_failsOnly _ _).bind fun _ => ?_
  refine (toReal_failsOnly _).bind fun _ => (floorOf_failsOnly _).bind fun _ => ?_
  refine (scaleBack_failsOnly _ _).bind fun rounded => ?_
  split
  · exact (floorOf_failsOnly rounded).bind fun _ => .ok _
  · exact .ok _

theorem roundHalfUp_failsOnly
    (amount : Amount)
    (digits : Int) :
    (amount.roundHalfUp digits).FailsOnly Fault.IsArithmetic := by
  refine (toReal_failsOnly amount).bind fun value => ?_
  split
  · exact roundFinite_failsOnly amount digits
  · exact .ok amount

end Amount

theorem Binary64.roundToWhole_failsOnly
    (value : Binary64) :
    value.roundToWhole.FailsOnly Fault.IsArithmetic := by
  refine (Amount.roundHalfUp_failsOnly _ _).bind fun rounded => ?_
  cases rounded with
  | whole rounded =>
      exact .ok rounded
  | real rest =>
      exact Amount.floorOf_failsOnly rest

/-! ## Types -/

/-- A cell of the rows is an integer that has no nearest finite number. -/
def HasCellBeyond (rows : List Row) : Prop :=
  ∃ row ∈ rows, ∃ column, (row.cell column).IsBeyond

theorem Cell.columnType_failsOnly
    (cell : Cell) :
    cell.columnType.FailsOnly fun fault => fault = .overflow ∧ cell.IsBeyond := by
  unfold columnType
  split
  · exact .ok _
  · split
    · next fault failed =>
        exact .error (number?_eq_error_iff.mp failed)
    · exact .ok _
    · exact .ok _

theorem columnTypeOf_failsOnly
    (cells : List Cell) :
    (columnTypeOf cells).FailsOnly fun fault =>
      fault = .overflow ∧ ∃ cell ∈ cells, cell.IsBeyond := by
  induction cells with
  | nil =>
      exact .ok _
  | cons cell rest inductionHypothesis =>
      have restFails := inductionHypothesis.mono fun fault cause =>
        (⟨cause.1, cause.2.imp fun _ => .imp_left (List.mem_cons_of_mem cell)⟩ :
          fault = .overflow ∧ ∃ found ∈ cell :: rest, found.IsBeyond)
      unfold columnTypeOf
      split
      · exact restFails
      · split
        · next fault failed =>
            obtain ⟨isOverflow, isBeyond⟩ := cell.columnType_failsOnly fault failed
            exact .error ⟨isOverflow, cell, List.mem_cons_self, isBeyond⟩
        · exact restFails
        · exact .ok _

theorem describeColumns_failsOnly
    {α : Type}
    {sort : Fault → Prop}
    {find : String → Outcome α}
    (findFails : ∀ column, (find column).FailsOnly sort)
    (columns : List String) :
    (describeColumns find columns).FailsOnly sort :=
  .foldlM (fun _ column => (findFails column).map _) _ columns

theorem detectColumnTypes_failsOnly
    (sampleRows : Int)
    (rows : List Row) :
    (detectColumnTypes sampleRows rows).FailsOnly fun fault =>
      fault = .overflow ∧ HasCellBeyond rows := by
  refine describeColumns_failsOnly (fun column => ?_) _
  refine (columnTypeOf_failsOnly _).mono fun fault cause => ?_
  obtain ⟨isOverflow, cell, among, isBeyond⟩ := cause
  obtain ⟨row, sampled, rfl⟩ := List.mem_map.mp among
  exact ⟨isOverflow, row, List.mem_of_mem_take sampled, column, isBeyond⟩

/-- Types cannot be found out only where the rows that decide them hold an integer out of range. -/
theorem Table.types_failsOnly
    (settings : Settings)
    (table : Table) :
    (table.types settings).FailsOnly fun fault =>
      fault = .overflow ∧ ∃ rows, table.typeSource = .inferred rows ∧ HasCellBeyond rows := by
  unfold types
  split
  · exact .ok _
  · next rows source =>
      exact (detectColumnTypes_failsOnly _ rows).mono fun fault cause =>
        ⟨cause.1, rows, source, cause.2⟩

/-! ## Kinds -/

theorem reachesShare_failsOnly
    (threshold : Amount)
    (count total : Nat) :
    (reachesShare threshold count total).FailsOnly Fault.IsArithmetic := by
  refine (Amount.mul_failsOnly _ _).bind fun least => ?_
  cases least <;> exact .ok _

theorem dominantKind?_failsOnly
    (threshold : Amount)
    (total : Nat)
    (counts : List (SmartKind × Nat)) :
    (dominantKind? threshold total counts).FailsOnly Fault.IsArithmetic := by
  refine .foldlM (fun best entry => ?_) _ _
  dsimp only
  split
  · refine (reachesShare_failsOnly _ _ _).bind fun reached => ?_
    split <;> exact .ok _
  · exact .ok _

theorem smartTypeOf_failsOnly
    (threshold : Amount)
    (cells : List Cell) :
    (smartTypeOf threshold cells).FailsOnly Fault.IsArithmetic := by
  refine (dominantKind?_failsOnly _ _ _).bind fun dominant => ?_
  split
  · exact .ok _
  · exact (Binary64.roundToWhole_failsOnly _).bind fun _ => .ok _

theorem Table.smartTypes_failsOnly
    (settings : Settings)
    (table : Table) :
    (table.smartTypes settings).FailsOnly Fault.IsArithmetic := by
  unfold smartTypes
  split
  · exact .ok _
  · exact describeColumns_failsOnly (fun _ => smartTypeOf_failsOnly _ _) _

/-!
## Tables that can be described

Texts have a type whatever numbers are written in them, so the types of a table without other cells
can always be inferred. Kinds are shares of counts; they can be inferred as long as the number of
rows is in the range of binary64 numbers.
-/

/-- The cell is a text, or nothing. -/
def Cell.IsTextual : Cell → Prop
  | .text _ => True
  | .null => True
  | _ => False

instance : DecidablePred Cell.IsTextual
  | .text _ | .null => isTrue trivial
  | .bool _ | .int _ | .float _ | .date _ | .moment _ => isFalse id

/-- Every cell of the row is a text, or nothing. -/
def Row.IsTextual (row : Row) : Prop :=
  ∀ column, (row.cell column).IsTextual

/-- All cells of the table are texts or nothing, those that its types are inferred from as well. -/
structure Table.IsTextual (table : Table) : Prop where
  rows : ∀ row ∈ table.rows, row.IsTextual
  typeRows : ∀ rows, table.typeSource = .inferred rows → ∀ row ∈ rows, row.IsTextual

theorem Row.IsTextual.of_values
    {row : Row}
    (textual : ∀ cell ∈ row.values, cell.IsTextual) :
    row.IsTextual := by
  intro column
  rw [Row.cell]
  cases found : row.find? column with
  | none =>
      trivial
  | some cell =>
      exact textual cell (List.mem_map_of_mem (Assoc.find?_eq_some_iff.mp found))

theorem Cell.IsTextual.not_isBeyond
    {cell : Cell}
    (textual : cell.IsTextual) :
    ¬cell.IsBeyond := by
  cases cell <;> first | exact id | exact textual.elim

/-- A text is read as a number or not, but it is never a fault to ask. -/
theorem Cell.IsTextual.number?_eq
    {cell : Cell}
    (textual : cell.IsTextual) :
    cell.number? = .ok cell.reading? := by
  cases cell with
  | text _ | null =>
      exact congrArg Except.ok (Cell.reading?_of_number? rfl).symm
  | _ =>
      exact textual.elim

/-- The types of a table of texts can be inferred. -/
theorem Table.IsTextual.exists_types
    {table : Table}
    (textual : table.IsTextual)
    (settings : Settings) :
    ∃ types, table.types settings = .ok types := by
  cases inferred : table.types settings with
  | ok types =>
      exact ⟨types, rfl⟩
  | error fault =>
      obtain ⟨-, rows, source, row, member, column, beyond⟩ :=
        table.types_failsOnly settings fault inferred
      exact absurd beyond (textual.typeRows rows source row member column).not_isBeyond

/-! ## Counts of kinds -/

/-- A kind is counted no more often than kinds are counted. -/
theorem le_length_of_mem_countKinds
    {kinds : List SmartKind}
    {entry : SmartKind × Nat}
    (member : entry ∈ countKinds kinds) :
    entry.2 ≤ kinds.length := by
  induction kinds using List.reverseRecOn generalizing entry with
  | nil =>
      exact absurd member List.not_mem_nil
  | append_singleton counted kind inductionHypothesis =>
      rw [countKinds, List.foldl_append, List.foldl_cons, List.foldl_nil] at member
      rw [List.length_append, List.length_singleton]
      split at member
      · obtain ⟨before, isBefore, rfl⟩ := List.mem_map.mp member
        have bound := inductionHypothesis isBefore
        split
        · exact Nat.succ_le_succ bound
        · exact Nat.le_succ_of_le bound
      · rcases List.mem_append.mp member with isBefore | isNew
        · exact Nat.le_succ_of_le (inductionHypothesis isBefore)
        · rw [List.mem_singleton.mp isNew]
          exact Nat.succ_le_succ (Nat.zero_le _)

theorem exists_reachesShare
    (threshold : Amount)
    (count : Nat)
    {total : Nat}
    (inRange : total < Binary64.intLimit) :
    ∃ reached, reachesShare threshold count total = .ok reached := by
  have exists_least : ∃ least, (Amount.whole total).mul threshold = .ok least := by
    cases threshold with
    | whole value =>
        exact ⟨_, rfl⟩
    | real value =>
        have chain : (Amount.whole total).mul (.real value) = (do
            let left ← Amount.realOfInt total
            .ok (.real (left.mul value))) :=
          rfl
        rw [chain]
        cases isReal : Amount.realOfInt total with
        | ok number =>
            exact ⟨_, rfl⟩
        | error fault =>
            obtain ⟨-, beyond⟩ := Amount.realOfInt_eq_error_iff.mp isReal
            exact absurd inRange beyond.not_gt
  obtain ⟨least, isLeast⟩ := exists_least
  rw [reachesShare, isLeast]
  cases least <;> exact ⟨_, rfl⟩

/-- The kind that is found is among the ones that are counted. -/
theorem exists_dominantKind?
    (threshold : Amount)
    {total : Nat}
    (inRange : total < Binary64.intLimit)
    (counts : List (SmartKind × Nat)) :
    ∃ found, dominantKind? threshold total counts = .ok found ∧
      ∀ entry, found = some entry → entry ∈ counts := by
  refine Outcome.exists_foldlM (fun entry member best isBest => ?_) nofun
  obtain ⟨reached, isReached⟩ := exists_reachesShare threshold entry.2 inRange
  dsimp only
  split
  · rw [isReached]
    cases reached with
    | true =>
        exact ⟨some entry, rfl, by rintro _ ⟨⟩; exact member⟩
    | false =>
        exact ⟨best, rfl, isBest⟩
  · exact ⟨best, rfl, isBest⟩

/-- A percentage of a count in range can be rounded. -/
theorem exists_percentOf
    {part total : Nat}
    (positive : 0 < total)
    (within : part ≤ total)
    (inRange : total < Binary64.intLimit) :
    ∃ percent, percentOf part total = .ok percent := by
  obtain ⟨share, isShare, small⟩ := Binary64.exists_share positive within inRange
  have hundred : (Binary64.ofNat 100).value? = some ((100 : Nat) : ℚ) :=
    Binary64.value?_ofNat (by decide)
  have limit : (800 : ℚ) < Binary64.intLimit := by
    exact_mod_cast (by decide +kernel : 800 < Binary64.intLimit)
  have finite :
      (((Binary64.ofNat part).div (Binary64.ofNat total)).mul (Binary64.ofNat 100)).isFinite =
        true := by
    rw [Binary64.isFinite_mul_iff isShare hundred, abs_mul, Nat.abs_cast]
    push_cast
    linarith
  exact Binary64.exists_roundToWhole finite

/-- The kind of a column can be inferred from any number of cells that is in range. -/
theorem exists_smartTypeOf
    (threshold : Amount)
    {cells : List Cell}
    (inRange : cells.length < Binary64.intLimit) :
    ∃ info, smartTypeOf threshold cells = .ok info := by
  set filled := cells.filter fun cell => !cell.isBlank with isFilled
  have filledInRange : filled.length < Binary64.intLimit :=
    (List.length_filter_le _ cells).trans_lt inRange
  obtain ⟨found, isFound, among⟩ :=
    exists_dominantKind? threshold filledInRange
      (countKinds ((filled.map Cell.smartKind).filter (· ≠ .none)))
  rw [smartTypeOf, ← isFilled, isFound]
  cases found with
  | none =>
      exact ⟨{}, rfl⟩
  | some entry =>
      have counted := le_length_of_mem_countKinds (among entry rfl)
      have within : entry.2 ≤ filled.length := by
        refine counted.trans ((List.length_filter_le _ _).trans ?_)
        rw [List.length_map]
      have positive : 0 < filled.length := by
        refine List.length_pos_iff.mpr fun isEmpty => ?_
        have member := among entry rfl
        rw [isEmpty] at member
        exact absurd member List.not_mem_nil
      obtain ⟨percent, isPercent⟩ := exists_percentOf positive within filledInRange
      exact ⟨_, congrArg (Except.map _) isPercent⟩

/-- The kinds of a table can be inferred when the number of rows is in range. -/
theorem Table.exists_smartTypes
    (settings : Settings)
    (table : Table)
    (inRange : ∀ rows, table.kindSource = .inferred rows → rows.length < Binary64.intLimit) :
    ∃ kinds, table.smartTypes settings = .ok kinds := by
  rw [smartTypes]
  split
  · next map source =>
      exact ⟨map, rfl⟩
  · next rows source =>
      refine Outcome.exists_foldlM_of_forall (fun column _ found => ?_) Assoc.empty
      have cellsInRange : (rows.map fun row => row.cell column).length < Binary64.intLimit := by
        rw [List.length_map]
        exact inRange rows source
      obtain ⟨info, isInfo⟩ := exists_smartTypeOf settings.smartTypeThreshold cellsInRange
      exact ⟨found.insert column info, by beta_reduce; rw [isInfo]; rfl⟩

end Tabular
