import Tabular.Analysis.Quality
import Tabular.Proofs.Table.Duplicates

namespace Tabular

/-!
# Removing repeated rows

Removing keeps the first of the rows that look the same, and removes as many rows as the quality
report counts. Whether rows look the same is decided anew for the rows that are left. They can look
the same then only in a column that becomes real without the removed rows, as when the one truth
value that kept it mixed repeated an earlier one. So removing once more usually changes nothing, but
it can remove more rows.
-/

/-! ## Tables without repetitions -/

/-- The rows can be compared, and each looks different from those before it. -/
def Frame.StayApart (rows : List Row) (columns : List String) : Prop :=
  (∀ column ∈ columns, ¬Overflows (cellsIn rows column)) ∧
    rows.Pairwise fun row later => ¬Alike rows columns later row

/-- Elements that differ from those given, and from each other, are all left. -/
theorem unrepeated_eq_self
    {α : Type}
    {same : α → α → Bool}
    {earlier elements : List α}
    (differFromEarlier : ∀ element ∈ elements, ∀ other ∈ earlier, ¬same element other = true)
    (differ : elements.Pairwise fun element later => ¬same later element = true) :
    unrepeated same earlier elements = elements := by
  induction elements generalizing earlier with
  | nil =>
      rfl
  | cons element rest inductionHypothesis =>
      obtain ⟨restDiffer, restPairwise⟩ := List.pairwise_cons.mp differ
      have isNew : ¬earlier.any (same element) = true := by
        intro isSame
        obtain ⟨other, isEarlier, isSame⟩ := List.any_eq_true.mp isSame
        exact differFromEarlier element List.mem_cons_self other isEarlier isSame
      rw [unrepeated, if_neg isNew, inductionHypothesis ?_ restPairwise]
      intro later member other isEarlier
      rcases List.mem_cons.mp isEarlier with rfl | isEarlier
      · exact restDiffer later member
      · exact differFromEarlier later (List.mem_cons_of_mem element member) other isEarlier

section

variable {table : Table}

/-- All rows are distinct exactly when they look different from each other. -/
theorem distinctRows_eq_self_iff
    (rows : List Row)
    (columns : List String) :
    Frame.distinctRows rows columns = rows ↔
      rows.Pairwise fun row later => ¬Frame.Alike rows columns later row := by
  constructor
  · intro allLeft
    have differ := Frame.pairwise_distinctRows rows columns
    rwa [allLeft] at differ
  · intro differ
    refine unrepeated_eq_self (fun _ _ _ isNone => absurd isNone List.not_mem_nil) ?_
    simpa only [Frame.sameValues_lineOf_iff] using differ

/-- Removing repeated rows changes nothing exactly when rows stay apart. -/
theorem removeDuplicateRows_eq_self_iff
    (someColumn : table.columns ≠ []) :
    removeDuplicateRows table = .ok table ↔ Frame.StayApart table.rows table.columns := by
  rcases removeDuplicateRows_cases someColumn with
    ⟨⟨column, member, overflows⟩, failed⟩ | ⟨within, removed⟩
  · rw [failed]
    exact iff_of_false nofun fun apart => apart.1 column member overflows
  · rw [removed, Frame.StayApart, and_iff_right within, ← distinctRows_eq_self_iff]
    refine ⟨fun unchanged => congrArg Table.rows (Except.ok.inj unchanged), fun allLeft => ?_⟩
    rw [allLeft]
    rfl

/-- The quality report counts the rows that are found to repeat an earlier one. -/
theorem exists_places_of_analyzeQuality
    {settings : Settings}
    {types : Option (Assoc ColumnType)}
    {report : QualityReport}
    (reported : analyzeQuality settings types table = .ok report) :
    ∃ places, duplicateIndices table.rows table.columns = .ok places ∧
      report.rowDuplicates = places.length := by
  rw [analyzeQuality] at reported
  split at reported
  · next isEmpty =>
      cases reported
      refine ⟨[], ?_, rfl⟩
      rw [duplicateIndices, if_pos (by simp [List.isEmpty_iff.mp isEmpty])]
  · obtain ⟨found, reported⟩ : ∃ found, Quality.reportFor settings found table = .ok report := by
      cases types with
      | some found =>
          exact ⟨found, reported⟩
      | none =>
          obtain ⟨found, -, reported⟩ := Outcome.bind_eq_ok_iff.mp reported
          exact ⟨found, reported⟩
    rw [Quality.reportFor] at reported
    obtain ⟨qualities, -, reported⟩ := Outcome.bind_eq_ok_iff.mp reported
    obtain ⟨overall, -, reported⟩ := Outcome.bind_eq_ok_iff.mp reported
    obtain ⟨places, isFound, reported⟩ := Outcome.bind_eq_ok_iff.mp reported
    cases reported
    exact ⟨places, isFound, rfl⟩

/-- The rows that are left and those that are counted are all rows. -/
theorem length_rows_of_removeDuplicateRows
    (someColumn : table.columns ≠ [])
    {distinct : Table}
    (removed : removeDuplicateRows table = .ok distinct)
    {places : List Nat}
    (found : duplicateIndices table.rows table.columns = .ok places) :
    distinct.rows.length + places.length = table.rows.length := by
  rw [eq_derive_of_removeDuplicateRows someColumn removed,
    eq_repeatedFrom_of_duplicateIndices someColumn found]
  exact Frame.length_distinctRows_add table.rows table.columns

/-- The quality report counts no repeated rows exactly when rows stay apart. -/
theorem rowDuplicates_eq_zero_iff
    (someColumn : table.columns ≠ [])
    {settings : Settings}
    {types : Option (Assoc ColumnType)}
    {report : QualityReport}
    (reported : analyzeQuality settings types table = .ok report) :
    report.rowDuplicates = 0 ↔ Frame.StayApart table.rows table.columns := by
  obtain ⟨places, found, counted⟩ := exists_places_of_analyzeQuality reported
  rcases duplicateIndices_cases table.rows someColumn with ⟨-, failed⟩ | ⟨within, -⟩
  · rw [failed] at found
    exact absurd found nofun
  · have total := Frame.length_distinctRows_add table.rows table.columns
    rw [← eq_repeatedFrom_of_duplicateIndices someColumn found, ← counted] at total
    rw [Frame.StayApart, and_iff_right within, ← distinctRows_eq_self_iff]
    constructor
    · intro noneCounted
      exact (Frame.distinctRows_sublist table.rows table.columns).eq_of_length (by omega)
    · intro allLeft
      rw [allLeft] at total
      omega

end

/-! ## What is left -/

/-- A column that becomes real without other rows has no integers that are rounded. -/
def Frame.SettlesBy (before after : List Row) (columns : List String) : Prop :=
  ∀ column ∈ columns, BecomesReal (cellsIn after column) → ¬BecomesReal (cellsIn before column) →
    ∀ value, .int value ∈ cellsIn after column → Binary64.IsExactFor value

/-- Among fewer rows, rows look the same only if they did before. -/
theorem Frame.alike_of_settlesBy
    {before after : List Row}
    {columns : List String}
    (settles : SettlesBy before after columns)
    {row other : Row}
    (member : row ∈ after)
    (otherMember : other ∈ after)
    (alike : Alike after columns row other) :
    Alike before columns row other := by
  intro column isColumn
  have sameNow := alike column isColumn
  by_cases realBefore : BecomesReal (cellsIn before column)
  · by_cases realNow : BecomesReal (cellsIn after column)
    · simp only [shows, shown, if_pos realNow] at sameNow
      simp only [shows, shown, if_pos realBefore]
      exact sameNow
    · simp only [shows, shown, if_neg realNow] at sameNow
      exact shows_congr before column sameNow
  · have exact := fun realNow => settles column isColumn realNow realBefore
    rw [shows_eq_content exact member, shows_eq_content exact otherMember] at sameNow
    exact shows_congr before column sameNow

/--
Removing repeated rows leaves rows of the table in their order: the first of those that look the
same, and no two that do. It removes as many rows as the quality report counts, and changes nothing
else. Removing once more changes nothing exactly when the rows that are left stay apart in a frame
of their own, and then the report counts none. Without an overflow they stay apart if no column
becomes real by the removal, or only with integers that are not rounded.
-/
theorem removal_leaves_first_rows
    (table : Table)
    (someColumn : table.columns ≠ []) :
    let alike := Frame.Alike table.rows table.columns
    (removeDuplicateRows table).OverflowsIff
        (∃ column ∈ table.columns, Frame.Overflows (Frame.cellsIn table.rows column)) ∧
      ∀ distinct, removeDuplicateRows table = .ok distinct →
        distinct = table.derive distinct.rows ∧
        distinct.rows.Sublist table.rows ∧
        (∀ before row after, table.rows = before ++ row :: after →
          (∀ earlier ∈ before, ¬alike row earlier) →
            LeftInPlace before row after distinct.rows) ∧
        (distinct.rows.Pairwise fun row later => ¬alike later row) ∧
        (∀ settings types report, analyzeQuality settings types table = .ok report →
          distinct.rows.length + report.rowDuplicates = table.rows.length) ∧
        (removeDuplicateRows distinct = .ok distinct ↔
          Frame.StayApart distinct.rows distinct.columns) ∧
        (∀ settings types report, analyzeQuality settings types distinct = .ok report →
          (report.rowDuplicates = 0 ↔ Frame.StayApart distinct.rows distinct.columns)) ∧
        (Frame.SettlesBy table.rows distinct.rows table.columns →
          (Frame.StayApart distinct.rows distinct.columns ↔
            ∀ column ∈ table.columns, ¬Frame.Overflows (Frame.cellsIn distinct.rows column))) := by
  intro alike
  refine ⟨removeDuplicateRows_overflowsIff someColumn, fun distinct removed => ?_⟩
  have isDerived := eq_derive_of_removeDuplicateRows someColumn removed
  have rows_eq := rows_of_removeDuplicateRows someColumn removed
  have columns_eq : distinct.columns = table.columns := by
    rw [isDerived]
    rfl
  have someColumnLeft : distinct.columns ≠ [] := by
    rwa [columns_eq]
  have differ := Frame.pairwise_distinctRows table.rows table.columns
  rw [← rows_eq] at differ
  refine ⟨?_, ?_, ?_, differ, ?_, removeDuplicateRows_eq_self_iff someColumnLeft, ?_, ?_⟩
  · rw [rows_eq]
    exact isDerived
  · rw [rows_eq]
    exact Frame.distinctRows_sublist table.rows table.columns
  · intro before row after isSplit differs
    rw [rows_eq]
    exact Frame.leftInPlace_distinctRows isSplit differs
  · intro settings types report reported
    obtain ⟨places, found, counted⟩ := exists_places_of_analyzeQuality reported
    rw [counted]
    exact length_rows_of_removeDuplicateRows someColumn removed found
  · intro settings types report reported
    exact rowDuplicates_eq_zero_iff someColumnLeft reported
  · intro settles
    rw [columns_eq]
    refine ⟨And.left, fun within => ⟨within, ?_⟩⟩
    refine differ.imp_of_mem fun member laterMember differs alikeNow => differs ?_
    exact Frame.alike_of_settlesBy settles laterMember member alikeNow

namespace Table.Sample

/-- A truth value that repeats a number, and two large integers next to each other. -/
def kept : Table :=
  .ofRows (some "kept")
    [.ofList [("amount", .float (.ofInt 1))], .ofList [("amount", .bool true)],
      .ofList [("amount", .int 9007199254740992)], .ofList [("amount", .int 9007199254740993)]]

/--
Without the truth value the column becomes real, and the two integers look the same: removing
repeated rows once more removes the second of them.
-/
theorem kept_loses_more_rows :
    kept.columns ≠ [] ∧
      ∃ distinct again, removeDuplicateRows kept = .ok distinct ∧
        removeDuplicateRows distinct = .ok again ∧
        distinct.rows.length = 3 ∧ again.rows.length = 2 ∧
        ¬Frame.StayApart distinct.rows distinct.columns := by
  have someColumn : kept.columns ≠ [] := by decide +kernel
  obtain ⟨distinct, removed⟩ : ∃ distinct, removeDuplicateRows kept = .ok distinct :=
    ⟨_, rfl⟩
  obtain ⟨again, removedAgain⟩ : ∃ again, removeDuplicateRows distinct = .ok again := by
    cases removed
    exact ⟨_, rfl⟩
  have threeLeft : distinct.rows.length = 3 := by
    cases removed
    rfl
  have twoLeft : again.rows.length = 2 := by
    cases removed
    cases removedAgain
    rfl
  obtain ⟨-, -, -, -, -, settled, -, -⟩ :=
    (removal_leaves_first_rows kept someColumn).2 distinct removed
  refine ⟨someColumn, distinct, again, removed, removedAgain, threeLeft, twoLeft, ?_⟩
  intro stayApart
  rw [← settled, removedAgain] at stayApart
  have sameRows : again = distinct := Except.ok.inj stayApart
  rw [sameRows, threeLeft] at twoLeft
  exact absurd twoLeft (by decide)

end Table.Sample

end Tabular
