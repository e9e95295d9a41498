import Mathlib.Data.List.Basic
import Tabular.Proofs.Filter.Composition
import Tabular.Proofs.View.Comparison
import Tabular.Proofs.View.Parts

namespace Tabular

/-!
# Stable sorts

A stable sort is settled by the order alone: only one arrangement of the elements stands in order
with the tied elements as they stood. What is left of it after some elements are dropped is a stable
sort of what is left of the elements, so a table can be narrowed before or after it is sorted.
-/

/-! ## Arrangements of lists -/

section Arrangements

variable {α : Type} (precedes : α → α → Bool)

/-- Either of the two elements may stand before the other. -/
def tie (left right : α) : Bool :=
  precedes left right && precedes right left

/-- The elements are sorted, and those that tie are in their old order. -/
structure IsStableSort (elements sorted : List α) : Prop where
  perm : sorted.Perm elements
  ordered : sorted.Pairwise fun earlier later => precedes earlier later = true
  stable :
    ∀ element ∈ elements,
      sorted.filter (tie precedes element) = elements.filter (tie precedes element)

/-- An element may stand before whatever one that it may stand before may stand before. -/
def IsTransitiveOn (elements : List α) : Prop :=
  ∀ first ∈ elements, ∀ second ∈ elements, ∀ third ∈ elements,
    precedes first second = true → precedes second third = true → precedes first third = true

variable {precedes} {elements sorted sortedToo : List α}

theorem tie_iff
    {left right : α} :
    tie precedes left right = true ↔
      precedes left right = true ∧ precedes right left = true :=
  Bool.and_eq_true_iff

/-- Two arrangements of the same elements are equal if both are sorted and tie alike. -/
theorem eq_of_ordered
    (total : ∀ left right, (precedes left right || precedes right left) = true)
    (perm : sorted.Perm sortedToo)
    (ordered : sorted.Pairwise fun earlier later => precedes earlier later = true)
    (orderedToo : sortedToo.Pairwise fun earlier later => precedes earlier later = true)
    (sameTies :
      ∀ element ∈ sorted,
        sorted.filter (tie precedes element) = sortedToo.filter (tie precedes element)) :
    sorted = sortedToo := by
  have tiesWithItself (element : α) : tie precedes element element = true := by
    simpa [tie] using total element element
  induction sorted generalizing sortedToo with
  | nil =>
      exact (List.nil_perm.mp perm).symm
  | cons first rest inductionHypothesis =>
      cases sortedToo with
      | nil =>
          cases perm.eq_nil
      | cons firstToo restToo =>
          rw [List.pairwise_cons] at ordered orderedToo
          have firstTies : tie precedes first firstToo = true := by
            rcases List.mem_cons.mp (perm.mem_iff.mp List.mem_cons_self) with rfl | later
            · exact tiesWithItself first
            · rcases List.mem_cons.mp (perm.mem_iff.mpr List.mem_cons_self) with rfl | laterToo
              · exact tiesWithItself firstToo
              · exact tie_iff.mpr ⟨ordered.1 firstToo laterToo, orderedToo.1 first later⟩
          obtain rfl : first = firstToo := by
            have same := sameTies first List.mem_cons_self
            rw [List.filter_cons_of_pos (tiesWithItself first),
              List.filter_cons_of_pos firstTies] at same
            exact (List.cons.inj same).1
          congr 1
          refine inductionHypothesis perm.cons_inv ordered.2 orderedToo.2 fun element member => ?_
          have same := sameTies element (List.mem_cons_of_mem first member)
          rw [List.filter_cons, List.filter_cons] at same
          split at same
          · exact (List.cons.inj same).2
          · exact same

namespace IsStableSort

theorem unique
    (total : ∀ left right, (precedes left right || precedes right left) = true)
    (isSorted : IsStableSort precedes elements sorted)
    (isSortedToo : IsStableSort precedes elements sortedToo) :
    sorted = sortedToo := by
  refine eq_of_ordered total (isSorted.perm.trans isSortedToo.perm.symm) isSorted.ordered
    isSortedToo.ordered fun element member => ?_
  have isElement := isSorted.perm.mem_iff.mp member
  rw [isSorted.stable element isElement, isSortedToo.stable element isElement]

/-- What is left of a stable sort is one of what is left of the elements. -/
theorem filter
    (isSorted : IsStableSort precedes elements sorted)
    (test : α → Bool) :
    IsStableSort precedes (elements.filter test) (sorted.filter test) where
  perm := isSorted.perm.filter test
  ordered := isSorted.ordered.filter test
  stable element member := by
    rw [List.filter_comm, isSorted.stable element (List.mem_of_mem_filter member),
      List.filter_comm]

/-- The images of a stable sort are one, in the order of the images. -/
theorem map
    {β : Type}
    {image : β → α}
    {elements sorted : List β}
    (isSorted :
      IsStableSort (fun left right => precedes (image left) (image right)) elements sorted) :
    IsStableSort precedes (elements.map image) (sorted.map image) where
  perm := isSorted.perm.map image
  ordered := List.pairwise_map.mpr isSorted.ordered
  stable := by
    refine List.forall_mem_map.mpr fun element member => ?_
    rw [List.filter_map, List.filter_map]
    exact congrArg (List.map image) (isSorted.stable element member)

end IsStableSort

/-- A merge sort is a stable sort, as it leaves alone what is in order already. -/
theorem isStableSort_mergeSort_of_transitive
    (total : ∀ left right, (precedes left right || precedes right left) = true)
    (transitive : ∀ first second third,
      precedes first second = true → precedes second third = true → precedes first third = true)
    (elements : List α) :
    IsStableSort precedes elements (elements.mergeSort precedes) := by
  refine ⟨List.mergeSort_perm elements precedes,
    List.pairwise_mergeSort transitive total elements, fun element _ => ?_⟩
  have inOrder :
      (elements.filter (tie precedes element)).Pairwise fun left right =>
        precedes left right = true := by
    refine List.pairwise_of_forall_mem_list fun left isLeft right isRight => ?_
    have tiesLeft := tie_iff.mp (List.mem_filter.mp isLeft).2
    have tiesRight := tie_iff.mp (List.mem_filter.mp isRight).2
    exact transitive left element right tiesLeft.2 tiesRight.1
  have isSublist :=
    (List.sublist_mergeSort transitive total inOrder List.filter_sublist).filter
      (tie precedes element)
  rw [List.filter_filter] at isSublist
  simp only [Bool.and_self] at isSublist
  have sameLength :=
    ((List.mergeSort_perm elements precedes).filter (tie precedes element)).length_eq
  exact (isSublist.eq_of_length sameLength.symm).symm

/-- It is one as well when the order is transitive only on the elements. -/
theorem isStableSort_mergeSort
    (total : ∀ left right, (precedes left right || precedes right left) = true)
    (transitive : IsTransitiveOn precedes elements) :
    IsStableSort precedes elements (elements.mergeSort precedes) := by
  have isSorted := (isStableSort_mergeSort_of_transitive
    (fun left right => total left.1 right.1)
    (fun first second third =>
      transitive first.1 first.2 second.1 second.2 third.1 third.2) elements.attach).map
  have isMapped :
      (elements.attach.mergeSort fun left right => precedes left.1 right.1).map Subtype.val =
        (elements.attach.map Subtype.val).mergeSort precedes :=
    List.map_mergeSort fun _ _ _ _ => rfl
  rwa [isMapped, List.attach_map_subtype_val] at isSorted

/-- A sorted arrangement of elements that are dropped before or after is the same. -/
theorem filter_mergeSort
    (total : ∀ left right, (precedes left right || precedes right left) = true)
    (transitive : IsTransitiveOn precedes elements)
    (test : α → Bool) :
    (elements.mergeSort precedes).filter test = (elements.filter test).mergeSort precedes := by
  have staysTransitive : IsTransitiveOn precedes (elements.filter test) :=
    fun first isFirst second isSecond third isThird =>
      transitive first (List.mem_of_mem_filter isFirst) second (List.mem_of_mem_filter isSecond)
        third (List.mem_of_mem_filter isThird)
  exact ((isStableSort_mergeSort total transitive).filter test).unique total
    (isStableSort_mergeSort total staysTransitive)

end Arrangements

/-! ## Rows by a column -/

/-- How a cell compares with one that it has to stand before. -/
def SortDirection.earlier : SortDirection → Ordering
  | .ascending => .lt
  | .descending => .gt

/-- The row may stand before the other one. -/
def Row.precedes (column : String) (direction : SortDirection) (left right : Row) : Bool :=
  (left.cell column).sortKey.precedes direction (right.cell column).sortKey

/-- The table has the rows of another one, sorted by a column, and tied rows in their old order. -/
structure Table.IsSortOf (sorted : Table) (column : String) (direction : SortDirection)
    (table : Table) : Prop where
  isOrder : sorted.IsOrderOf table
  ordered :
    sorted.rows.Pairwise fun earlier later =>
      (later.cell column).compareTo (earlier.cell column) ≠ .ok direction.earlier
  stable :
    ∀ row ∈ table.rows,
      (sorted.rows.filter fun other =>
          (row.cell column).compareTo (other.cell column) = .ok .eq) =
        table.rows.filter fun other =>
          (row.cell column).compareTo (other.cell column) = .ok .eq

section Rows

variable {column : String} {direction : SortDirection} {rows : List Row} {left right : Row}

theorem Row.precedes_total
    (left right : Row) :
    (left.precedes column direction right || right.precedes column direction left) = true := by
  cases direction with
  | ascending => exact SortKey.notAfter_total _ _
  | descending => exact SortKey.notAfter_total _ _

theorem Row.precedes_iff
    (isLeft : (left.cell column).IsReadable)
    (isRight : (right.cell column).IsReadable) :
    left.precedes column direction right = true ↔
      (right.cell column).compareTo (left.cell column) ≠ .ok direction.earlier := by
  rw [Cell.compareTo_eq isRight isLeft, ne_eq, Except.ok.injEq]
  cases direction with
  | ascending =>
      refine SortKey.notAfter_iff.trans (not_congr ?_)
      rw [← SortKey.compareTo_swap, Ordering.swap_eq_gt]
      rfl
  | descending =>
      exact SortKey.notAfter_iff

/-- Rows tie in either direction when their cells compare as equal. -/
theorem Row.tie_eq
    (isLeft : (left.cell column).IsReadable)
    (isRight : (right.cell column).IsReadable) :
    tie (Row.precedes column direction) left right =
      decide ((left.cell column).compareTo (right.cell column) = .ok .eq) := by
  rw [Bool.eq_iff_iff, decide_eq_true_eq, Cell.compareTo_eq isLeft isRight, Except.ok.injEq,
    SortKey.compareTo_eq_iff, tie_iff]
  cases direction with
  | ascending => exact Iff.rfl
  | descending => exact and_comm

/-- Sorting rows is a merge sort of them, which a single row is left alone by as well. -/
theorem sortedRows_eq_ok
    (areReadable : ∀ row ∈ rows, (row.cell column).IsReadable) :
    sortedRows column direction rows = .ok (rows.mergeSort (Row.precedes column direction)) := by
  rw [sortedRows]
  split
  · next short =>
      rcases rows with _ | ⟨row, _ | ⟨other, rest⟩⟩
      · exact congrArg Except.ok List.mergeSort_nil.symm
      · exact congrArg Except.ok (List.mergeSort_singleton row).symm
      · exact absurd short (by simp)
  · have areKeyed :
        rows.mapM (keyed column) =
          .ok (rows.map fun row => ((row.cell column).sortKey, row)) := by
      refine Outcome.mapM_eq_ok_map fun row member => ?_
      rw [keyed, Cell.ofCell_eq_sortKey (areReadable row member)]
      rfl
    have isMapped :
        (rows.mergeSort (Row.precedes column direction)).map
            (fun row => ((row.cell column).sortKey, row)) =
          (rows.map fun row => ((row.cell column).sortKey, row)).mergeSort fun left right =>
            left.1.precedes direction right.1 :=
      List.map_mergeSort fun _ _ _ _ => rfl
    rw [areKeyed]
    simp only [bind, Except.bind, pure, Except.pure, ← isMapped, List.map_map]
    exact congrArg Except.ok (List.map_id _)

end Rows

/-! ## Sorting and narrowing tables -/

section Narrowing

variable {column : String} {direction : SortDirection} {table : Table}

theorem isReadable_of_areRanked
    (ranked : AreRanked (table.cells column)) :
    ∀ row ∈ table.rows, (row.cell column).IsReadable :=
  fun _ member => ranked.isReadable (List.mem_map_of_mem member)

theorem isTransitiveOn_of_areRanked
    (ranked : AreRanked (table.cells column)) :
    IsTransitiveOn (Row.precedes column direction) table.rows := by
  have readable := isReadable_of_areRanked ranked
  have notAfterTrans
      {first second third : Row}
      (isFirst : first ∈ table.rows)
      (isSecond : second ∈ table.rows)
      (isThird : third ∈ table.rows) :
      (first.cell column).sortKey.notAfter (second.cell column).sortKey = true →
        (second.cell column).sortKey.notAfter (third.cell column).sortKey = true →
          (first.cell column).sortKey.notAfter (third.cell column).sortKey = true := by
    rw [Cell.notAfter_sortKey_iff (readable first isFirst) (readable second isSecond),
      Cell.notAfter_sortKey_iff (readable second isSecond) (readable third isThird),
      Cell.notAfter_sortKey_iff (readable first isFirst) (readable third isThird)]
    exact ranked.transitive _ (List.mem_map_of_mem isFirst) _ (List.mem_map_of_mem isSecond) _
      (List.mem_map_of_mem isThird)
  intro first isFirst second isSecond third isThird
  cases direction with
  | ascending =>
      exact notAfterTrans isFirst isSecond isThird
  | descending =>
      exact fun upToSecond upToThird =>
        notAfterTrans isThird isSecond isFirst upToThird upToSecond

theorem sortRows_eq_ok
    (areReadable : ∀ row ∈ table.rows, (row.cell column).IsReadable) :
    sortRows column direction table =
      .ok (table.derive (table.rows.mergeSort (Row.precedes column direction))) := by
  rw [sortRows, sortedRows_eq_ok areReadable]
  rfl

variable (ranked : AreRanked (table.cells column))
include ranked

/-- Some of the rows are sorted as they stand in the sorted table. -/
theorem sortRows_derive_filter
    (test : Row → Bool) :
    sortRows column direction (table.derive (table.rows.filter test)) =
      .ok (table.derive
        ((table.rows.mergeSort (Row.precedes column direction)).filter test)) := by
  rw [sortRows_eq_ok fun row member =>
      isReadable_of_areRanked ranked row (List.mem_of_mem_filter member),
    filter_mergeSort Row.precedes_total (isTransitiveOn_of_areRanked ranked)]
  rfl

theorem filterRows_mergeSort_iff
    {caseSensitive : Bool}
    {node : FilterNode}
    {result : Table}
    {invalidPatterns : Nat} :
    filterRows caseSensitive node
          (table.derive (table.rows.mergeSort (Row.precedes column direction))) =
        .ok (result, invalidPatterns) ↔
      ∃ narrowed,
        filterRows caseSensitive node table = .ok (narrowed, invalidPatterns) ∧
          sortRows column direction narrowed = .ok result := by
  have perm := List.mergeSort_perm table.rows (Row.precedes column direction)
  have sorts {kept keptSorted : List Row} {invalidFirst invalidSecond : Nat}
      (isKept :
        keepRows (node.evaluate caseSensitive) table.rows = .ok (kept, invalidFirst))
      (isKeptSorted :
        keepRows (node.evaluate caseSensitive)
          (table.rows.mergeSort (Row.precedes column direction)) =
            .ok (keptSorted, invalidSecond)) :
      sortRows column direction (table.derive kept) = .ok (table.derive keptSorted) := by
    rw [keepRows_eq_filter isKept, keepRows_eq_filter isKeptSorted]
    exact sortRows_derive_filter ranked _
  constructor
  · intro filtered
    obtain ⟨keptSorted, isKeptSorted, rfl⟩ := filterRows_eq_ok_iff.mp filtered
    obtain ⟨kept, isKept⟩ := exists_keepRows_of_perm perm ⟨keptSorted, isKeptSorted⟩
    exact ⟨_, filterRows_eq_ok_iff.mpr ⟨kept, isKept, rfl⟩, sorts isKept isKeptSorted⟩
  · rintro ⟨_, filtered, isSorted⟩
    obtain ⟨kept, isKept, rfl⟩ := filterRows_eq_ok_iff.mp filtered
    obtain ⟨keptSorted, isKeptSorted⟩ := exists_keepRows_of_perm perm.symm ⟨kept, isKept⟩
    cases isSorted.symm.trans (sorts isKept isKeptSorted)
    exact filterRows_eq_ok_iff.mpr ⟨keptSorted, isKeptSorted, rfl⟩

theorem sortRows_searchRows
    (caseSensitive : Bool)
    (term : String) :
    sortRows column direction (searchRows caseSensitive term table) =
      .ok (searchRows caseSensitive term
        (table.derive (table.rows.mergeSort (Row.precedes column direction)))) := by
  rw [searchRows, searchRows]
  split
  · exact sortRows_eq_ok (isReadable_of_areRanked ranked)
  · exact sortRows_derive_filter ranked _

theorem isSortOf_mergeSort :
    (table.derive (table.rows.mergeSort (Row.precedes column direction))).IsSortOf column direction
      table := by
  have readable := isReadable_of_areRanked ranked
  have transitive : IsTransitiveOn (Row.precedes column direction) table.rows :=
    isTransitiveOn_of_areRanked ranked
  have isStableSort := isStableSort_mergeSort Row.precedes_total transitive
  have readableToo : ∀ row ∈ table.rows.mergeSort (Row.precedes column direction),
      (row.cell column).IsReadable :=
    fun row member => readable row (isStableSort.perm.mem_iff.mp member)
  refine ⟨⟨isStableSort.perm, rfl⟩, ?_, fun row member => ?_⟩
  · exact isStableSort.ordered.imp_of_mem fun isEarlier isLater inOrder =>
      (Row.precedes_iff (readableToo _ isEarlier) (readableToo _ isLater)).mp inOrder
  · have ties := isStableSort.stable row member
    rw [List.filter_congr fun other isOther =>
        Row.tie_eq (readable row member) (readableToo other isOther),
      List.filter_congr fun other isOther =>
        Row.tie_eq (readable row member) (readable other isOther)] at ties
    exact ties

end Narrowing

/--
A table is sorted by a column that is ranked: its rows are arranged in the direction, those that
compare as equal stay in their order, and sorting again changes nothing. Filtering or searching the
sorted table leaves the same rows in the same order as sorting what the filter or the search leaves
of the table, and the filter fails in one of these ways if it does in the other. A column is ranked
if each of its cells is a finite number or shows nothing, and also if none of its cells is a number.
-/
theorem sorting_commutes_with_narrowing
    (column : String)
    (direction : SortDirection)
    (table : Table) :
    (AreRanked (table.cells column) →
      ∃ sorted,
        sortRows column direction table = .ok sorted ∧
          sorted.IsSortOf column direction table ∧
          sortRows column direction sorted = .ok sorted ∧
          (∀ (caseSensitive : Bool) (node : FilterNode) (result : Table) (invalidPatterns : Nat),
            filterRows caseSensitive node sorted = .ok (result, invalidPatterns) ↔
              ∃ narrowed,
                filterRows caseSensitive node table = .ok (narrowed, invalidPatterns) ∧
                  sortRows column direction narrowed = .ok result) ∧
          ∀ (caseSensitive : Bool) (term : String),
            sortRows column direction (searchRows caseSensitive term table) =
              .ok (searchRows caseSensitive term sorted)) ∧
      ((∀ cell ∈ table.cells column, cell.IsNumberOrEmpty) → AreRanked (table.cells column)) ∧
      ((∀ cell ∈ table.cells column, cell.number? = .ok none) →
        AreRanked (table.cells column)) := by
  refine ⟨fun ranked => ?_, areRanked_of_numbers, areRanked_of_no_numbers⟩
  have readable := isReadable_of_areRanked ranked
  refine ⟨_, sortRows_eq_ok readable, isSortOf_mergeSort ranked, ?_,
    fun _ _ _ _ => filterRows_mergeSort_iff ranked, sortRows_searchRows ranked⟩
  have transitive : IsTransitiveOn (Row.precedes column direction) table.rows :=
    isTransitiveOn_of_areRanked ranked
  have isStableSort := isStableSort_mergeSort Row.precedes_total transitive
  rw [sortRows_eq_ok fun row member => readable row (isStableSort.perm.mem_iff.mp member)]
  exact congrArg (fun rows => Except.ok (table.derive rows))
    (List.mergeSort_of_pairwise isStableSort.ordered)

namespace Table.Amounts

/-- An amount with a note. -/
def entry (amount : Cell) (note : String) : Row :=
  .ofList [("amount", amount), ("note", .text note)]

/-- Two equal amounts, one of them a text, a greater one, and one that is missing. -/
def ledger : Table :=
  .ofRows (some "ledger")
    [entry (.int 9) "first", entry .null "second", entry (.text "10") "third",
      entry (.text "9.0") "fourth"]

/-- The entries from the greatest amount down. -/
def downwards : List Row :=
  [entry (.text "10") "third", entry (.int 9) "first", entry (.text "9.0") "fourth",
    entry .null "second"]

/-- The equal amounts keep their order downwards, also among the entries that a search finds. -/
theorem amounts_downwards :
    (∀ cell ∈ ledger.cells "amount", cell.IsNumberOrEmpty) ∧
      (∀ cell ∈ ledger.cells "note", cell.number? = .ok none) ∧
      AreRanked (ledger.cells "note") ∧
      sortRows "amount" .descending ledger = .ok (ledger.derive downwards) ∧
      (ledger.derive downwards).IsSortOf "amount" .descending ledger ∧
      sortRows "amount" .descending (searchRows false "F" ledger) =
        .ok (searchRows false "F" (ledger.derive downwards)) := by
  have numbers : ∀ cell ∈ ledger.cells "amount", cell.IsNumberOrEmpty := by
    decide +kernel
  have noNumbers : ∀ cell ∈ ledger.cells "note", cell.number? = .ok none := by
    decide +kernel
  obtain ⟨sorts, areRanked, -⟩ :=
    sorting_commutes_with_narrowing "amount" .descending ledger
  obtain ⟨sorted, isSorted, isSortOf, -, -, searched⟩ := sorts (areRanked numbers)
  have isDownwards : IsStableSort (Row.precedes "amount" .descending) ledger.rows downwards :=
    ⟨by decide +kernel, by decide +kernel, by decide +kernel⟩
  have sortsDownwards : sortRows "amount" .descending ledger = .ok (ledger.derive downwards) := by
    have ranked := areRanked numbers
    rw [sortRows_eq_ok (isReadable_of_areRanked ranked),
      (isStableSort_mergeSort Row.precedes_total (isTransitiveOn_of_areRanked ranked)).unique
        Row.precedes_total isDownwards]
  cases isSorted.symm.trans sortsDownwards
  exact ⟨numbers, noNumbers,
    (sorting_commutes_with_narrowing "note" .ascending ledger).2.2 noNumbers,
    sortsDownwards, isSortOf, searched false "F"⟩

end Table.Amounts

end Tabular
