import Tabular.Filter.Evaluation
import Tabular.Proofs.Outcome
import Tabular.View.Search
import Tabular.View.Sort

namespace Tabular

/-!
# Parts of tables

A filter and a search leave a part of a table: some of its rows, in their order, and everything else
that the table is. A sort leaves all of its rows in another order, and everything else as well. So
the columns of what is left are described as those of the table, even when no row is left.
-/

/-- The table has some of the rows of another one, in order, and is the same otherwise. -/
structure Table.IsPartOf (part whole : Table) : Prop where
  sublist : part.rows.Sublist whole.rows
  eq_derive : part = whole.derive part.rows

/-- The table has the rows of another one in any order, and is the same otherwise. -/
structure Table.IsOrderOf (ordered table : Table) : Prop where
  perm : ordered.rows.Perm table.rows
  eq_derive : ordered = table.derive ordered.rows

namespace Table

variable {table part whole : Table}

/-- A table with other rows has the same columns, and they are described as before. -/
theorem columns_eq_of_eq_derive
    {rows : List Row}
    (isDerived : part = whole.derive rows) :
    part.columns = whole.columns := by
  rw [isDerived]
  rfl

theorem types_eq_of_eq_derive
    {rows : List Row}
    (isDerived : part = whole.derive rows)
    (settings : Settings) :
    part.types settings = whole.types settings := by
  rw [isDerived]
  rfl

theorem smartTypes_eq_of_eq_derive
    {rows : List Row}
    (isDerived : part = whole.derive rows)
    (settings : Settings) :
    part.smartTypes settings = whole.smartTypes settings := by
  rw [isDerived]
  rfl

namespace IsPartOf

theorem refl
    (table : Table) :
    table.IsPartOf table :=
  ⟨.refl _, rfl⟩

theorem trans
    (first : table.IsPartOf part)
    (second : part.IsPartOf whole) :
    table.IsPartOf whole := by
  refine ⟨first.sublist.trans second.sublist, ?_⟩
  rw [first.eq_derive, second.eq_derive]
  rfl

end IsPartOf

end Table

/-- The rows that are kept are some of the rows, in order. -/
theorem sublist_of_keepRows
    {test : Row → Outcome Verdict}
    {rows kept : List Row}
    {invalidPatterns : Nat}
    (isKept : keepRows test rows = .ok (kept, invalidPatterns)) :
    kept.Sublist rows := by
  induction rows generalizing kept invalidPatterns with
  | nil =>
      cases isKept
      exact .slnil
  | cons row rest inductionHypothesis =>
      obtain ⟨verdict, -, isKept⟩ := Outcome.bind_eq_ok_iff.mp isKept
      obtain ⟨⟨keptRest, _⟩, restIsKept, isKept⟩ := Outcome.bind_eq_ok_iff.mp isKept
      have restIsSublist := inductionHypothesis restIsKept
      cases isKept
      split
      · exact restIsSublist.cons_cons row
      · exact restIsSublist.cons row

/-- A filter leaves a part of the table. -/
theorem isPartOf_of_filterRows
    {caseSensitive : Bool}
    {node : FilterNode}
    {table : Table}
    {answer : Table × Nat}
    (filtered : filterRows caseSensitive node table = .ok answer) :
    answer.1.IsPartOf table := by
  obtain ⟨⟨kept, _⟩, isKept, filtered⟩ := Outcome.bind_eq_ok_iff.mp filtered
  cases filtered
  exact ⟨sublist_of_keepRows isKept, rfl⟩

/-- A search leaves a part of the table. -/
theorem isPartOf_searchRows
    (caseSensitive : Bool)
    (term : String)
    (table : Table) :
    (searchRows caseSensitive term table).IsPartOf table := by
  rw [searchRows]
  split
  · exact .refl table
  · exact ⟨List.filter_sublist, rfl⟩

/-- Pairing rows with their keys keeps the rows. -/
theorem map_snd_of_mapM_keyed
    {column : String}
    {rows : List Row}
    {pairs : List (SortKey × Row)}
    (areKeyed : rows.mapM (keyed column) = .ok pairs) :
    pairs.map Prod.snd = rows := by
  induction rows generalizing pairs with
  | nil =>
      cases areKeyed
      rfl
  | cons row rest inductionHypothesis =>
      rw [List.mapM_cons] at areKeyed
      obtain ⟨pair, isKeyed, areKeyed⟩ := Outcome.bind_eq_ok_iff.mp areKeyed
      obtain ⟨others, othersAreKeyed, areKeyed⟩ := Outcome.bind_eq_ok_iff.mp areKeyed
      obtain ⟨key, -, isPair⟩ := Outcome.bind_eq_ok_iff.mp isKeyed
      cases isPair
      cases areKeyed
      exact congrArg (row :: ·) (inductionHypothesis othersAreKeyed)

/-- A sort leaves the table in another order. -/
theorem isOrderOf_of_sortRows
    {column : String}
    {direction : SortDirection}
    {table ordered : Table}
    (sorted : sortRows column direction table = .ok ordered) :
    ordered.IsOrderOf table := by
  obtain ⟨rows, areSorted, sorted⟩ := Outcome.bind_eq_ok_iff.mp sorted
  cases sorted
  refine ⟨?_, rfl⟩
  rw [sortedRows] at areSorted
  split at areSorted
  · cases areSorted
    exact .refl _
  · obtain ⟨pairs, areKeyed, areSorted⟩ := Outcome.bind_eq_ok_iff.mp areSorted
    cases areSorted
    rw [← map_snd_of_mapM_keyed areKeyed]
    exact (List.mergeSort_perm _ _).map _

end Tabular
