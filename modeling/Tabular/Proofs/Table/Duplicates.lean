import Tabular.Proofs.Table.Columns
import Tabular.Proofs.Table.Frame

namespace Tabular

/-!
# Rows that repeat an earlier one

Rows repeat one another when they look the same in the frame of all rows. Looking the same is an
equivalence, so it does not matter that a line is only compared with the lines that have been kept.
Rows that hold the same values look the same. The converse fails where integers are rounded: rows
with different integers look the same when these have the same nearest binary64 number.
-/

/-! ## Repetitions in a list -/

section

variable {α : Type}

/-- The element at the place is like one before it. -/
def RepeatsEarlier (alike : α → α → Prop) (elements : List α) (place : Nat) : Prop :=
  ∃ before element after, elements = before ++ element :: after ∧ before.length = place ∧
    ∃ earlier ∈ before, alike element earlier

theorem RepeatsEarlier.imp
    {alike other : α → α → Prop}
    {elements : List α}
    {place : Nat}
    (repeats : RepeatsEarlier alike elements place)
    (onward : ∀ element ∈ elements, ∀ earlier ∈ elements,
      alike element earlier → other element earlier) :
    RepeatsEarlier other elements place := by
  obtain ⟨before, element, after, rfl, isPlace, earlier, isBefore, isAlike⟩ := repeats
  have isElement : element ∈ before ++ element :: after :=
    List.mem_append_right before List.mem_cons_self
  exact
    ⟨before, element, after, rfl, isPlace, earlier, isBefore,
      onward element isElement earlier (List.mem_append_left _ isBefore) isAlike⟩

/-- Of a split list the element is left, between some of those before it and some of those after. -/
def LeftInPlace (before : List α) (element : α) (after left : List α) : Prop :=
  ∃ leftBefore leftAfter, left = leftBefore ++ element :: leftAfter ∧
    leftBefore.Sublist before ∧ leftAfter.Sublist after

/-- The elements that are not the same as one before them, or as one of those given. -/
def unrepeated (same : α → α → Bool) (earlier : List α) : List α → List α
  | [] => []
  | element :: rest =>
      if earlier.any (same element) then unrepeated same earlier rest
      else element :: unrepeated same (element :: earlier) rest

/-- A list that starts with an element is split there or later. -/
theorem exists_split_cons_iff
    {first : α}
    {rest : List α}
    {holds : List α → α → List α → Prop} :
    (∃ before element after, first :: rest = before ++ element :: after ∧
        holds before element after) ↔
      holds [] first rest ∨
        ∃ before element after, rest = before ++ element :: after ∧
          holds (first :: before) element after := by
  constructor
  · rintro ⟨_ | ⟨head, before⟩, element, after, isSplit, isHeld⟩
    · obtain ⟨rfl, rfl⟩ := List.cons.inj isSplit
      exact .inl isHeld
    · obtain ⟨rfl, rfl⟩ := List.cons.inj isSplit
      exact .inr ⟨before, element, after, rfl, isHeld⟩
  · rintro (isHeld | ⟨before, element, after, rfl, isHeld⟩)
    · exact ⟨[], first, rest, rfl, isHeld⟩
    · exact ⟨first :: before, element, after, rfl, isHeld⟩

namespace Frame

variable {line : α → List Cell} {alike : α → α → Prop}

/-- Places are listed exactly for the elements that are like one before them. -/
theorem mem_repeatedFrom_iff
    (equivalence : Equivalence alike)
    (same :
      ∀ element other, Cell.sameValues (line element) (line other) = true ↔ alike element other)
    (earlier : List α)
    (start : Nat)
    (elements : List α)
    (place : Nat) :
    place ∈ repeatedFrom (earlier.map line) start (elements.map line) ↔
      ∃ before element after, elements = before ++ element :: after ∧
        start + before.length = place ∧
        ∃ other ∈ before.reverse ++ earlier, alike element other := by
  induction elements generalizing earlier start with
  | nil =>
      simp [repeatedFrom]
  | cons element rest inductionHypothesis =>
      have isRepeated :
          (earlier.map line).any (Cell.sameValues (line element)) = true ↔
            ∃ other ∈ earlier, alike element other := by
        simp [same]
      rw [List.map_cons, repeatedFrom, exists_split_cons_iff]
      split
      · next repeats =>
          obtain ⟨original, isEarlier, isAlike⟩ := isRepeated.mp repeats
          rw [List.mem_cons, inductionHypothesis]
          refine or_congr ?_ ?_
          · simp only [List.length_nil, Nat.add_zero, List.reverse_nil, List.nil_append]
            exact ⟨fun isHere => ⟨isHere.symm, original, isEarlier, isAlike⟩,
              fun isHere => isHere.1.symm⟩
          · refine exists_congr fun before => exists_congr fun later => exists_congr fun after =>
              and_congr_right fun _ => and_congr (by rw [List.length_cons]; omega) ?_
            simp only [List.reverse_cons, List.append_assoc, List.singleton_append,
              List.mem_append, List.mem_cons, or_and_right, exists_or, exists_eq_left]
            refine or_congr_right ⟨.inr, ?_⟩
            rintro (likeElement | likeEarlier)
            · exact ⟨original, isEarlier, equivalence.trans likeElement isAlike⟩
            · exact likeEarlier
      · next differs =>
          rw [isRepeated] at differs
          rw [← List.map_cons, inductionHypothesis]
          rw [or_iff_right (by simpa using fun _ => differs)]
          refine exists_congr fun before => exists_congr fun later => exists_congr fun after =>
            and_congr_right fun _ => and_congr (by rw [List.length_cons]; omega) ?_
          simp only [List.reverse_cons, List.append_assoc, List.singleton_append]

/-- Places are listed once, in ascending order. -/
theorem pairwise_repeatedFrom
    (earlier : List (List Cell))
    (start : Nat)
    (lines : List (List Cell)) :
    (repeatedFrom earlier start lines).Pairwise (· < ·) := by
  induction lines generalizing earlier start with
  | nil =>
      exact .nil
  | cons line rest inductionHypothesis =>
      rw [repeatedFrom]
      split
      · exact .cons (fun place listed => le_of_mem_repeatedFrom listed)
          (inductionHypothesis earlier (start + 1))
      · exact inductionHypothesis (line :: earlier) (start + 1)

end Frame

/-- Places before the start drop nothing. -/
theorem dropPlaces_cons_of_lt
    {place start : Nat}
    (isBefore : place < start)
    (places : List Nat)
    (elements : List α) :
    dropPlaces (place :: places) start elements = dropPlaces places start elements := by
  induction elements generalizing start with
  | nil =>
      rfl
  | cons element rest inductionHypothesis =>
      have notHere : (place :: places).contains start = places.contains start := by
        rw [List.contains_cons, beq_false_of_ne isBefore.ne', Bool.false_or]
      rw [dropPlaces, dropPlaces, notHere,
        inductionHypothesis (isBefore.trans (Nat.lt_succ_self _))]

/-- Dropping the places of repeated elements leaves those that repeat nothing. -/
theorem dropPlaces_repeatedFrom
    (line : α → List Cell)
    (earlier : List α)
    (start : Nat)
    (elements : List α) :
    dropPlaces (Frame.repeatedFrom (earlier.map line) start (elements.map line)) start elements =
      unrepeated (fun element other => Cell.sameValues (line element) (line other)) earlier
        elements := by
  induction elements generalizing earlier start with
  | nil =>
      rfl
  | cons element rest inductionHypothesis =>
      have isRepeated :
          (earlier.map line).any (Cell.sameValues (line element)) =
            earlier.any fun other => Cell.sameValues (line element) (line other) :=
        List.any_map
      rw [List.map_cons, Frame.repeatedFrom, unrepeated, isRepeated]
      split
      · rw [dropPlaces, if_pos (by simp), dropPlaces_cons_of_lt (Nat.lt_succ_self start)]
        exact inductionHypothesis earlier (start + 1)
      · rw [dropPlaces, if_neg, ← List.map_cons, inductionHypothesis]
        intro listed
        have later := Frame.le_of_mem_repeatedFrom (List.contains_iff_mem.mp listed)
        omega

/-! ## What repeats nothing -/

section

variable {same : α → α → Bool}

theorem unrepeated_sublist
    (same : α → α → Bool)
    (earlier elements : List α) :
    (unrepeated same earlier elements).Sublist elements := by
  induction elements generalizing earlier with
  | nil =>
      exact .slnil
  | cons element rest inductionHypothesis =>
      rw [unrepeated]
      split
      · exact (inductionHypothesis earlier).cons element
      · exact (inductionHypothesis (element :: earlier)).cons_cons element

/-- What is left is not the same as anything given before. -/
theorem not_same_of_mem_unrepeated
    {earlier elements : List α}
    {element other : α}
    (left : element ∈ unrepeated same earlier elements)
    (isEarlier : other ∈ earlier) :
    ¬same element other = true := by
  induction elements generalizing earlier with
  | nil =>
      exact absurd left List.not_mem_nil
  | cons first rest inductionHypothesis =>
      rw [unrepeated] at left
      split at left
      · exact inductionHypothesis left isEarlier
      · next differs =>
          rcases List.mem_cons.mp left with rfl | later
          · exact fun isSame => differs (List.any_eq_true.mpr ⟨other, isEarlier, isSame⟩)
          · exact inductionHypothesis later (List.mem_cons_of_mem first isEarlier)

/-- No element that is left is the same as one left before it. -/
theorem pairwise_unrepeated
    (same : α → α → Bool)
    (earlier elements : List α) :
    (unrepeated same earlier elements).Pairwise
      fun element later => ¬same later element = true := by
  induction elements generalizing earlier with
  | nil =>
      exact .nil
  | cons element rest inductionHypothesis =>
      rw [unrepeated]
      split
      · exact inductionHypothesis earlier
      · exact .cons (fun later left => not_same_of_mem_unrepeated left List.mem_cons_self)
          (inductionHypothesis (element :: earlier))

/-- An element that is the same as none before it is left in its place. -/
theorem leftInPlace_unrepeated
    {before after : List α}
    {element : α}
    (earlier : List α)
    (differs : ∀ other ∈ before.reverse ++ earlier, ¬same element other = true) :
    LeftInPlace before element after (unrepeated same earlier (before ++ element :: after)) := by
  induction before generalizing earlier with
  | nil =>
      refine ⟨[], unrepeated same (element :: earlier) after, ?_, .slnil,
        unrepeated_sublist same _ after⟩
      rw [List.nil_append, unrepeated, if_neg]
      · rfl
      · intro isSame
        obtain ⟨other, isEarlier, isSame⟩ := List.any_eq_true.mp isSame
        exact differs other isEarlier isSame
  | cons first rest inductionHypothesis =>
      rw [List.reverse_cons, List.append_assoc, List.singleton_append] at differs
      rw [List.cons_append, unrepeated]
      split
      · have differsToo : ∀ other ∈ rest.reverse ++ earlier, ¬same element other = true := by
          intro other member
          refine differs other ?_
          rcases List.mem_append.mp member with isBefore | isEarlier
          · exact List.mem_append_left _ isBefore
          · exact List.mem_append_right _ (List.mem_cons_of_mem first isEarlier)
        obtain ⟨leftBefore, leftAfter, isSplit, sublistBefore, sublistAfter⟩ :=
          inductionHypothesis earlier differsToo
        exact ⟨leftBefore, leftAfter, isSplit, sublistBefore.cons first, sublistAfter⟩
      · obtain ⟨leftBefore, leftAfter, isSplit, sublistBefore, sublistAfter⟩ :=
          inductionHypothesis (first :: earlier) differs
        exact
          ⟨first :: leftBefore, leftAfter, congrArg (first :: ·) isSplit,
            sublistBefore.cons_cons first, sublistAfter⟩

end

/-- Each element is listed or left. -/
theorem length_unrepeated_add
    (line : α → List Cell)
    (earlier : List α)
    (start : Nat)
    (elements : List α) :
    (unrepeated (fun element other => Cell.sameValues (line element) (line other)) earlier
          elements).length +
        (Frame.repeatedFrom (earlier.map line) start (elements.map line)).length =
      elements.length := by
  induction elements generalizing earlier start with
  | nil =>
      rfl
  | cons element rest inductionHypothesis =>
      have isRepeated :
          (earlier.map line).any (Cell.sameValues (line element)) =
            earlier.any fun other => Cell.sameValues (line element) (line other) :=
        List.any_map
      rw [List.map_cons, Frame.repeatedFrom, unrepeated, isRepeated]
      split
      · rw [List.length_cons, List.length_cons, ← Nat.add_assoc, inductionHypothesis]
      · rw [← List.map_cons, List.length_cons, List.length_cons, Nat.add_right_comm,
          inductionHypothesis]

end

/-! ## Rows that look the same -/

/-- What the frame of rows shows of a row in a column. -/
def Frame.shows (rows : List Row) (column : String) (row : Row) : Meaning :=
  (shown (cellsIn rows column) (row.cell column)).content

/-- The rows look the same in the frame of all rows. -/
def Frame.Alike (rows : List Row) (columns : List String) (row other : Row) : Prop :=
  ∀ column ∈ columns, shows rows column row = shows rows column other

/-- The rows hold the same values. -/
def Row.HoldSame (columns : List String) (row other : Row) : Prop :=
  ∀ column ∈ columns, (row.cell column).content = (other.cell column).content

theorem Frame.equivalence_alike
    (rows : List Row)
    (columns : List String) :
    Equivalence (Alike rows columns) where
  refl _ _ _ := rfl
  symm alike column member := (alike column member).symm
  trans alike onward column member := (alike column member).trans (onward column member)

/-- Lines are the same when their rows look the same. -/
theorem Frame.sameValues_lineOf_iff
    (rows : List Row)
    (columns : List String)
    (row other : Row) :
    Cell.sameValues (lineOf rows columns row) (lineOf rows columns other) = true ↔
      Alike rows columns row other := by
  simp [Cell.sameValues, lineOf, List.zip_map', sameValue_filledCell_iff, Alike, shows]

/-- A cell that holds the same as an integer does still holds the same when that is rounded. -/
theorem Frame.content_realCell_int
    {value : Int}
    {other : Cell}
    (same : (Cell.int value).content = other.content) :
    (realCell (.int value)).content = (realCell other).content := by
  cases other with
  | int otherValue =>
      have sameNumber := Meaning.number.inj same
      rw [show value = otherValue by exact_mod_cast sameNumber]
  | bool truth =>
      have isWhole : value = if truth then 1 else 0 := by
        have sameNumber := Meaning.number.inj same
        exact_mod_cast sameNumber
      refine (content_realCell_of_isExactFor (Binary64.isExactFor_of_natAbs_lt ?_)).trans same
      rw [isWhole]
      cases truth <;> decide
  | float number =>
      refine (content_realCell_of_isExactFor ?_).trans same
      cases number with
      | nan | infinite negative =>
          exact absurd same nofun
      | finite negative significand exponent canonical =>
          have isValue :
              (Binary64.finite negative significand exponent canonical).value? =
                some (value : ℚ) :=
            congrArg some (Meaning.number.inj same).symm
          exact Binary64.toInt?_eq_some_iff.mpr (Binary64.value?_ofInt_of_value isValue)
  | null | text _ | date _ | moment _ =>
      exact absurd same nofun

theorem Frame.content_realCell_congr
    {cell other : Cell}
    (same : cell.content = other.content) :
    (realCell cell).content = (realCell other).content := by
  cases cell with
  | int value =>
      exact content_realCell_int same
  | null | bool _ | float _ | text _ | date _ | moment _ =>
      cases other with
      | int value =>
          exact (content_realCell_int same.symm).symm
      | null | bool _ | float _ | text _ | date _ | moment _ =>
          exact same

/-- A frame shows the same of rows that hold the same. -/
theorem Frame.shows_congr
    (rows : List Row)
    (column : String)
    {row other : Row}
    (same : (row.cell column).content = (other.cell column).content) :
    shows rows column row = shows rows column other := by
  rw [shows, shows, shown, shown]
  split
  · exact content_realCell_congr same
  · exact same

/-- Rows that hold the same look the same in every frame. -/
theorem Frame.alike_of_holdSame
    {columns : List String}
    {row other : Row}
    (holdSame : row.HoldSame columns other)
    (rows : List Row) :
    Alike rows columns row other :=
  fun column member => shows_congr rows column (holdSame column member)

/-- A frame shows what a row holds unless it rounds integers in the column. -/
theorem Frame.shows_eq_content
    {rows : List Row}
    {column : String}
    (exact : BecomesReal (cellsIn rows column) →
      ∀ value, .int value ∈ cellsIn rows column → Binary64.IsExactFor value)
    {row : Row}
    (member : row ∈ rows) :
    shows rows column row = (row.cell column).content := by
  rw [shows, shown]
  split
  · next becomesReal =>
      have isCell : row.cell column ∈ cellsIn rows column :=
        List.mem_map_of_mem member
      cases isInteger : row.cell column with
      | int value =>
          rw [isInteger] at isCell
          exact content_realCell_of_isExactFor (exact becomesReal value isCell)
      | null | bool _ | float _ | text _ | date _ | moment _ =>
          rfl
  · rfl

/-- Columns that become real have no integers that are rounded. -/
def Frame.RoundsNothing (rows : List Row) (columns : List String) : Prop :=
  ∀ column ∈ columns, BecomesReal (cellsIn rows column) →
    ∀ value, .int value ∈ cellsIn rows column → Binary64.IsExactFor value

/-- Where nothing is rounded, rows look the same only when they hold the same. -/
theorem Frame.alike_iff_holdSame
    {rows : List Row}
    {columns : List String}
    (exact : RoundsNothing rows columns)
    {row other : Row}
    (member : row ∈ rows)
    (otherMember : other ∈ rows) :
    Alike rows columns row other ↔ row.HoldSame columns other := by
  refine forall₂_congr fun column isColumn => ?_
  rw [shows_eq_content (exact column isColumn) member,
    shows_eq_content (exact column isColumn) otherMember]

/-! ## Repeated rows -/

/-- Repeated rows are found unless a column overflows. -/
theorem duplicateIndices_cases
    (rows : List Row)
    {columns : List String}
    (someColumn : columns ≠ []) :
    (∃ column ∈ columns, Frame.Overflows (Frame.cellsIn rows column)) ∧
        duplicateIndices rows columns = .error .overflow ∨
      (∀ column ∈ columns, ¬Frame.Overflows (Frame.cellsIn rows column)) ∧
        duplicateIndices rows columns =
          .ok (Frame.repeatedFrom [] 0 (rows.map (Frame.lineOf rows columns))) := by
  have noOverflow (column : String) : ¬Frame.Overflows (Frame.cellsIn [] column) := by
    simp [Frame.Overflows, Frame.cellsIn]
  have notEmpty : columns.isEmpty = false := by
    simpa using someColumn
  cases rows with
  | nil =>
      exact .inr ⟨fun column _ => noOverflow column, rfl⟩
  | cons row rest =>
      rw [duplicateIndices, notEmpty]
      rcases Frame.ofRows_cases (row :: rest) columns with ⟨overflows, failed⟩ | ⟨within, isFrame⟩
      · rw [failed]
        exact .inl ⟨overflows, rfl⟩
      · rw [isFrame]
        exact .inr ⟨within, rfl⟩

section

variable {rows : List Row} {columns : List String} {places : List Nat}

theorem duplicateIndices_overflowsIff
    (rows : List Row)
    (someColumn : columns ≠ []) :
    (duplicateIndices rows columns).OverflowsIff
      (∃ column ∈ columns, Frame.Overflows (Frame.cellsIn rows column)) :=
  .of_cases <| (duplicateIndices_cases rows someColumn).imp_right <| And.imp_left
    fun within ⟨column, member, overflows⟩ => within column member overflows

theorem eq_repeatedFrom_of_duplicateIndices
    (someColumn : columns ≠ [])
    (found : duplicateIndices rows columns = .ok places) :
    places = Frame.repeatedFrom [] 0 (rows.map (Frame.lineOf rows columns)) := by
  obtain ⟨-, isFound⟩ := (duplicateIndices_cases rows someColumn).resolve_left fun failed => by
    rw [failed.2] at found
    exact absurd found nofun
  exact Except.ok.inj (found.symm.trans isFound)

/-- The rows that are found are those that look like an earlier one. -/
theorem mem_duplicateIndices_iff
    (someColumn : columns ≠ [])
    (found : duplicateIndices rows columns = .ok places)
    (place : Nat) :
    place ∈ places ↔ RepeatsEarlier (Frame.Alike rows columns) rows place := by
  rw [eq_repeatedFrom_of_duplicateIndices someColumn found, ← List.map_nil,
    Frame.mem_repeatedFrom_iff (Frame.equivalence_alike rows columns)
      (Frame.sameValues_lineOf_iff rows columns)]
  simp [RepeatsEarlier]

end

/-- The rows that look like none before them. -/
def Frame.distinctRows (rows : List Row) (columns : List String) : List Row :=
  unrepeated
    (fun row other => Cell.sameValues (lineOf rows columns row) (lineOf rows columns other)) [] rows

namespace Frame

variable (rows : List Row) (columns : List String)

theorem distinctRows_sublist :
    (distinctRows rows columns).Sublist rows :=
  unrepeated_sublist _ [] rows

theorem pairwise_distinctRows :
    (distinctRows rows columns).Pairwise fun row later => ¬Alike rows columns later row := by
  rw [distinctRows]
  simpa only [sameValues_lineOf_iff] using pairwise_unrepeated
    (fun row other => Cell.sameValues (lineOf rows columns row) (lineOf rows columns other)) [] rows

theorem dropPlaces_repeatedFrom_lineOf :
    dropPlaces (repeatedFrom [] 0 (rows.map (lineOf rows columns))) 0 rows =
      distinctRows rows columns :=
  dropPlaces_repeatedFrom (lineOf rows columns) [] 0 rows

theorem length_distinctRows_add :
    (distinctRows rows columns).length +
        (repeatedFrom [] 0 (rows.map (lineOf rows columns))).length =
      rows.length :=
  length_unrepeated_add (lineOf rows columns) [] 0 rows

/-- A row that looks like none before it is distinct. -/
theorem leftInPlace_distinctRows
    {rows : List Row}
    {columns : List String}
    {before after : List Row}
    {row : Row}
    (isSplit : rows = before ++ row :: after)
    (differs : ∀ earlier ∈ before, ¬Alike rows columns row earlier) :
    LeftInPlace before row after (distinctRows rows columns) := by
  have differsFrom : ∀ other ∈ before.reverse ++ [],
      ¬Cell.sameValues (lineOf rows columns row) (lineOf rows columns other) = true := by
    intro other member
    rw [List.append_nil, List.mem_reverse] at member
    exact mt (sameValues_lineOf_iff rows columns row other).mp (differs other member)
  rw [distinctRows]
  generalize lineOf rows columns = line at differsFrom
  rw [isSplit]
  exact leftInPlace_unrepeated [] differsFrom

end Frame

/-- Removing repeated rows leaves the distinct ones unless a column overflows. -/
theorem removeDuplicateRows_cases
    {table : Table}
    (someColumn : table.columns ≠ []) :
    (∃ column ∈ table.columns, Frame.Overflows (Frame.cellsIn table.rows column)) ∧
        removeDuplicateRows table = .error .overflow ∨
      (∀ column ∈ table.columns, ¬Frame.Overflows (Frame.cellsIn table.rows column)) ∧
        removeDuplicateRows table =
          .ok (table.derive (Frame.distinctRows table.rows table.columns)) := by
  by_cases isEmpty : table.isEmpty = true
  · have noRows : table.rows = [] := List.isEmpty_iff.mp isEmpty
    refine .inr ⟨by simp [noRows, Frame.Overflows, Frame.cellsIn], ?_⟩
    rw [removeDuplicateRows, if_pos isEmpty, noRows, Frame.distinctRows, unrepeated, Table.derive,
      ← noRows]
    rfl
  · rw [removeDuplicateRows, if_neg isEmpty]
    rcases duplicateIndices_cases table.rows someColumn with ⟨overflows, failed⟩ | ⟨within, found⟩
    · rw [failed]
      exact .inl ⟨overflows, rfl⟩
    · rw [found]
      refine .inr ⟨within, ?_⟩
      change Except.ok (table.derive (dropPlaces _ 0 table.rows)) = _
      rw [Frame.dropPlaces_repeatedFrom_lineOf]

theorem removeDuplicateRows_overflowsIff
    {table : Table}
    (someColumn : table.columns ≠ []) :
    (removeDuplicateRows table).OverflowsIff
      (∃ column ∈ table.columns, Frame.Overflows (Frame.cellsIn table.rows column)) :=
  .of_cases <| (removeDuplicateRows_cases someColumn).imp_right <| And.imp_left
    fun within ⟨column, member, overflows⟩ => within column member overflows

/-- When repeated rows have been removed, the distinct ones are left. -/
theorem eq_derive_of_removeDuplicateRows
    {table distinct : Table}
    (someColumn : table.columns ≠ [])
    (removed : removeDuplicateRows table = .ok distinct) :
    distinct = table.derive (Frame.distinctRows table.rows table.columns) := by
  rcases removeDuplicateRows_cases someColumn with ⟨-, failed⟩ | ⟨-, isRemoved⟩
  · rw [failed] at removed
    exact absurd removed nofun
  · exact Except.ok.inj (removed.symm.trans isRemoved)

theorem rows_of_removeDuplicateRows
    {table distinct : Table}
    (someColumn : table.columns ≠ [])
    (removed : removeDuplicateRows table = .ok distinct) :
    distinct.rows = Frame.distinctRows table.rows table.columns := by
  rw [eq_derive_of_removeDuplicateRows someColumn removed]
  rfl

/--
Repeated rows are found unless a column overflows, and those that are found look like an earlier row
in the frame of all rows. So every row is found that holds the same values as an earlier one. Where
no integer of a column that becomes real is rounded, no other row is found, and removing the
repeated rows of a table leaves each row in its place that differs from every row before it in some
value.
-/
theorem found_rows_repeat_values
    (rows : List Row)
    (columns : List String)
    (someColumn : columns ≠ []) :
    (duplicateIndices rows columns).OverflowsIff
        (∃ column ∈ columns, Frame.Overflows (Frame.cellsIn rows column)) ∧
      (∀ places, duplicateIndices rows columns = .ok places →
        places.Pairwise (· < ·) ∧
        (∀ place, place ∈ places ↔ RepeatsEarlier (Frame.Alike rows columns) rows place) ∧
        (∀ place, RepeatsEarlier (Row.HoldSame columns) rows place → place ∈ places) ∧
        (Frame.RoundsNothing rows columns →
          ∀ place, place ∈ places ↔ RepeatsEarlier (Row.HoldSame columns) rows place)) ∧
      (Frame.RoundsNothing rows columns →
        ∀ table distinct : Table, table.rows = rows → table.columns = columns →
          removeDuplicateRows table = .ok distinct →
            ∀ before row after, rows = before ++ row :: after →
              (∀ earlier ∈ before, ¬row.HoldSame columns earlier) →
                LeftInPlace before row after distinct.rows) := by
  refine ⟨duplicateIndices_overflowsIff rows someColumn, fun places found => ?_, ?_⟩
  · have listed := mem_duplicateIndices_iff someColumn found
    have isListed (place : Nat) (repeats : RepeatsEarlier (Row.HoldSame columns) rows place) :
        place ∈ places :=
      (listed place).mpr
        (repeats.imp fun _ _ _ _ holdSame => Frame.alike_of_holdSame holdSame rows)
    refine ⟨?_, listed, isListed, fun exact place => ⟨fun member => ?_, isListed place⟩⟩
    · rw [eq_repeatedFrom_of_duplicateIndices someColumn found]
      exact Frame.pairwise_repeatedFrom [] 0 _
    · exact ((listed place).mp member).imp fun _ isRow _ isEarlier =>
        (Frame.alike_iff_holdSame exact isRow isEarlier).mp
  · rintro exact table distinct rfl rfl removed before row after isSplit differs
    rw [rows_of_removeDuplicateRows someColumn removed]
    refine Frame.leftInPlace_distinctRows isSplit fun earlier isBefore alike => ?_
    have isRow : row ∈ table.rows := by
      rw [isSplit]
      exact List.mem_append_right before List.mem_cons_self
    have isEarlier : earlier ∈ table.rows := by
      rw [isSplit]
      exact List.mem_append_left _ isBefore
    exact differs earlier isBefore ((Frame.alike_iff_holdSame exact isRow isEarlier).mp alike)

namespace Table.Sample

/-- Two large integers next to each other, and a gap. -/
def neighbours : Table :=
  .ofRows (some "neighbours")
    [.ofList [("amount", .int 9007199254740992)], .ofList [("amount", .int 9007199254740993)],
      .ofList [("amount", .null)]]

/-- The gap makes the second of two different integers look like the first one, so it is found. -/
theorem neighbours_look_alike :
    neighbours.columns ≠ [] ∧
      duplicateIndices neighbours.rows neighbours.columns = .ok [1] ∧
      RepeatsEarlier (Frame.Alike neighbours.rows neighbours.columns)
        neighbours.rows 1 ∧
      ¬RepeatsEarlier (Row.HoldSame neighbours.columns) neighbours.rows 1 := by
  have someColumn : neighbours.columns ≠ [] := by decide +kernel
  have found : duplicateIndices neighbours.rows neighbours.columns = .ok [1] := by
    decide +kernel
  obtain ⟨-, listed, -, -⟩ :=
    (found_rows_repeat_values neighbours.rows neighbours.columns someColumn).2.1 [1]
      found
  refine ⟨someColumn, found, (listed 1).mp List.mem_cons_self, ?_⟩
  rintro ⟨before, row, after, isSplit, isPlace, earlier, isBefore, holdSame⟩
  obtain ⟨first, rfl⟩ := List.length_eq_one_iff.mp isPlace
  obtain ⟨rfl, rest⟩ := List.cons.inj isSplit
  obtain ⟨rfl, -⟩ := List.cons.inj rest
  rw [List.mem_singleton.mp isBefore] at holdSame
  have same := Meaning.number.inj (holdSame "amount" (by decide +kernel))
  norm_num at same

end Table.Sample

end Tabular
