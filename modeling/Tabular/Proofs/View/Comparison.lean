import Mathlib.Order.WithBot
import Tabular.Proofs.Cell.Reading
import Tabular.Proofs.Number.Numeral
import Tabular.Proofs.Outcome
import Tabular.View.Sort

namespace Tabular

/-!
# Comparing the cells of a column

Two cells that are numbers compare by size, and any other two by their display texts in lower case.
Since the measure depends on the pair, the comparison need not be transitive: `9` comes before `10`
as a number, `10` before `5x` and `5x` before `9` as texts. A column is ranked when there is no such
circle on its cells and all of them can be compared, which an integer beyond the finite numbers
cannot. Columns of finite numbers and empty cells are ranked, and so are columns without numbers.
-/

/-- An answer from which of two sides comes before the other. -/
def orderingOf (before after : Bool) : Ordering :=
  if before then .lt else if after then .gt else .eq

/-- How two keys compare: two numbers by size, any other keys by their texts. -/
def SortKey.compareTo (left right : SortKey) : Ordering :=
  match left.number, right.number with
  | some left, some right => orderingOf (left.lt right) (right.lt left)
  | _, _ => orderingOf (left.text < right.text) (right.text < left.text)

/-- How two cells compare. -/
def Cell.compareTo (left right : Cell) : Outcome Ordering := do
  return (← SortKey.ofCell left).compareTo (← SortKey.ofCell right)

/-- The comparison answers on the cells, and what comes no later than a cell is so transitively. -/
structure AreRanked (cells : List Cell) : Prop where
  answers : ∀ left ∈ cells, ∀ right ∈ cells, ∃ ordering, left.compareTo right = .ok ordering
  transitive :
    ∀ first ∈ cells, ∀ second ∈ cells, ∀ third ∈ cells,
      first.compareTo second ≠ .ok .gt → second.compareTo third ≠ .ok .gt →
        first.compareTo third ≠ .ok .gt

/-! ## Keys -/

/-- At most one of two numbers is less than the other. -/
theorem Binary64.not_lt_of_lt
    {left right : Binary64}
    (isLess : left.lt right = true) :
    right.lt left = false := by
  cases left with
  | nan =>
      cases isLess
  | infinite leftNegative =>
      cases right with
      | nan =>
          cases isLess
      | infinite rightNegative =>
          cases leftNegative <;> cases rightNegative <;> first | rfl | cases isLess
      | finite _ _ _ _ =>
          cases leftNegative
          · cases isLess
          · rfl
  | finite _ _ _ _ =>
      cases right with
      | nan =>
          cases isLess
      | infinite rightNegative =>
          cases rightNegative
          · rfl
          · cases isLess
      | finite _ _ _ _ =>
          rw [lt_iff_of_value rfl rfl] at isLess
          rw [← Bool.not_eq_true, lt_iff_of_value rfl rfl]
          exact isLess.asymm

namespace SortKey

variable {left right : SortKey}

/-- Either of two keys comes no later than the other, by the measure that fits both. -/
theorem compareTo_cases
    (left right : SortKey) :
    ∃ before after : Bool,
      (before = true → after = false) ∧
        left.compareTo right = orderingOf before after ∧
          right.compareTo left = orderingOf after before ∧
            left.notAfter right = !after ∧ right.notAfter left = !before := by
  obtain ⟨leftNumber, leftText⟩ := left
  obtain ⟨rightNumber, rightText⟩ := right
  have byText :
      decide (leftText < rightText) = true → decide (rightText < leftText) = false := by
    simp only [decide_eq_true_eq, decide_eq_false_iff_not]
    exact String.lt_asymm
  cases leftNumber with
  | none =>
      exact ⟨_, _, byText, rfl, by cases rightNumber <;> rfl, rfl, by cases rightNumber <;> rfl⟩
  | some leftNumber =>
      cases rightNumber with
      | none => exact ⟨_, _, byText, rfl, rfl, rfl, rfl⟩
      | some rightNumber => exact ⟨_, _, Binary64.not_lt_of_lt, rfl, rfl, rfl, rfl⟩

/-- A key comes no later than another one unless it compares as greater. -/
theorem notAfter_iff :
    left.notAfter right = true ↔ left.compareTo right ≠ .gt := by
  obtain ⟨before, after, exclusive, compares, -, isNotAfter, -⟩ := compareTo_cases left right
  rw [isNotAfter, compares]
  cases before <;> cases after <;> simp_all [orderingOf]

/-- Keys compare as equal when neither of them comes after the other. -/
theorem compareTo_eq_iff :
    left.compareTo right = .eq ↔ left.notAfter right = true ∧ right.notAfter left = true := by
  obtain ⟨before, after, exclusive, compares, -, isNotAfter, isNotAfterToo⟩ :=
    compareTo_cases left right
  rw [isNotAfter, isNotAfterToo, compares]
  cases before <;> cases after <;> simp_all [orderingOf]

/-- Keys compare by their texts unless both have a number. -/
theorem notAfter_iff_of_no_number
    (noNumber : left.number = none ∨ right.number = none) :
    left.notAfter right = true ↔ left.text ≤ right.text := by
  obtain ⟨leftNumber, leftText⟩ := left
  obtain ⟨rightNumber, rightText⟩ := right
  have byText : (!decide (rightText < leftText)) = true ↔ leftText ≤ rightText := by
    rw [Bool.not_eq_true', decide_eq_false_iff_not]
    exact String.not_lt
  rcases noNumber with rfl | rfl
  · exact byText
  · cases leftNumber <;> exact byText

theorem compareTo_swap
    (left right : SortKey) :
    (left.compareTo right).swap = right.compareTo left := by
  obtain ⟨before, after, exclusive, compares, comparesBack, -⟩ := compareTo_cases left right
  rw [compares, comparesBack]
  cases before <;> cases after <;> simp_all [orderingOf, Ordering.swap]

theorem notAfter_total
    (left right : SortKey) :
    (left.notAfter right || right.notAfter left) = true := by
  obtain ⟨before, after, exclusive, -, -, isNotAfter, isNotAfterToo⟩ := compareTo_cases left right
  rw [isNotAfter, isNotAfterToo]
  cases before <;> cases after <;> simp_all

end SortKey

namespace Cell

/-- The number of the cell can be read, or it is known to have none. -/
def IsReadable (cell : Cell) : Prop :=
  ∃ number, cell.number? = .ok number

/-- The key of a cell, for one that is readable. -/
def sortKey (cell : Cell) : SortKey where
  number := cell.reading?
  text := Text.lower cell.display

variable {left right : Cell}

theorem ofCell_eq_sortKey
    {cell : Cell}
    (readable : cell.IsReadable) :
    SortKey.ofCell cell = .ok cell.sortKey := by
  obtain ⟨number, isNumber⟩ := readable
  rw [SortKey.ofCell, isNumber, sortKey, reading?_of_number? isNumber]
  rfl

theorem compareTo_eq
    (isLeft : left.IsReadable)
    (isRight : right.IsReadable) :
    left.compareTo right = .ok (left.sortKey.compareTo right.sortKey) := by
  rw [compareTo, ofCell_eq_sortKey isLeft, ofCell_eq_sortKey isRight]
  rfl

theorem isReadable_of_compareTo
    {ordering : Ordering}
    (compares : left.compareTo right = .ok ordering) :
    left.IsReadable := by
  obtain ⟨key, isKey, -⟩ := Outcome.bind_eq_ok_iff.mp compares
  obtain ⟨number, isNumber, -⟩ := Outcome.bind_eq_ok_iff.mp isKey
  exact ⟨number, isNumber⟩

theorem notAfter_sortKey_iff
    (isLeft : left.IsReadable)
    (isRight : right.IsReadable) :
    left.sortKey.notAfter right.sortKey = true ↔ left.compareTo right ≠ .ok .gt := by
  rw [compareTo_eq isLeft isRight, SortKey.notAfter_iff, ne_eq, ne_eq, Except.ok.injEq]

end Cell

/-! ## Ranked columns -/

section Ranked

variable {cells : List Cell}

theorem AreRanked.isReadable
    (ranked : AreRanked cells)
    {cell : Cell}
    (member : cell ∈ cells) :
    cell.IsReadable := by
  obtain ⟨_, compares⟩ := ranked.answers cell member cell member
  exact Cell.isReadable_of_compareTo compares

/-- Cells are ranked when they can be read and the comparison is a transitive relation on them. -/
theorem areRanked_of_relation
    (related : Cell → Cell → Prop)
    (areReadable : ∀ cell ∈ cells, cell.IsReadable)
    (isRelation :
      ∀ left ∈ cells, ∀ right ∈ cells,
        left.sortKey.notAfter right.sortKey = true ↔ related left right)
    (isTransitive : ∀ first second third,
      related first second → related second third → related first third) :
    AreRanked cells := by
  have notGreater {left right : Cell} (isLeft : left ∈ cells) (isRight : right ∈ cells) :
      left.compareTo right ≠ .ok .gt ↔ related left right := by
    rw [← Cell.notAfter_sortKey_iff (areReadable left isLeft) (areReadable right isRight),
      isRelation left isLeft right isRight]
  refine ⟨fun left isLeft right isRight =>
    ⟨_, Cell.compareTo_eq (areReadable left isLeft) (areReadable right isRight)⟩, ?_⟩
  intro first isFirst second isSecond third isThird
  rw [notGreater isFirst isSecond, notGreater isSecond isThird, notGreater isFirst isThird]
  exact isTransitive first second third

/-- Cells are ranked by their texts when none of them is a number. -/
theorem areRanked_of_no_numbers
    (noNumbers : ∀ cell ∈ cells, cell.number? = .ok none) :
    AreRanked cells := by
  refine areRanked_of_relation
    (fun left right => Text.lower left.display ≤ Text.lower right.display)
    (fun cell member => ⟨none, noNumbers cell member⟩) (fun left isLeft right _ => ?_)
    fun _ _ _ => String.le_trans
  exact SortKey.notAfter_iff_of_no_number (.inl (Cell.reading?_of_number? (noNumbers left isLeft)))

end Ranked

/-! ## Columns of numbers -/

namespace Text

/-- The empty text comes before all other texts. -/
theorem empty_le
    (text : String) :
    "" ≤ text := by
  rw [← String.not_lt, String.lt_iff]
  exact List.not_lt_nil _

theorem not_le_empty
    {text : String}
    (shows : text ≠ "") :
    ¬text ≤ "" := by
  have notNil : text.toList ≠ [] := by simpa using shows
  obtain ⟨character, rest, isText⟩ := List.exists_cons_of_ne_nil notNil
  rw [← String.not_lt, not_not, String.lt_iff, isText]
  exact List.nil_lt_cons character rest

/-- A text that shows something does so in lower case. -/
theorem lower_ne_empty
    {text : String}
    (shows : text ≠ "") :
    lower text ≠ "" := by
  have notNil : text.toList ≠ [] := by simpa using shows
  obtain ⟨character, rest, isText⟩ := List.exists_cons_of_ne_nil notNil
  have hasImage : lowerCharacter character ≠ [] := by
    rw [lowerCharacter]
    split <;> simp
  rw [lower, isText, lowerFrom]
  simp only [ne_eq, String.ofList_eq_empty_iff, List.append_eq_nil_iff, not_and]
  intro noImage
  split at noImage
  · split at noImage <;> cases noImage
  · exact absurd noImage hasImage

end Text

theorem Decimal.ofInt_ne_empty
    (value : Int) :
    Decimal.ofInt value ≠ "" := by
  rw [Decimal.ofInt, ne_eq, String.ofList_eq_empty_iff]
  split
  · exact List.cons_ne_nil _ _
  · exact (Decimal.isDigits_digits value.natAbs).nonempty

namespace Binary64

theorem writtenPositive_ne_nil
    (format : FloatFormat)
    (significand : Nat)
    (exponent : Int) :
    writtenPositive format significand exponent ≠ [] := by
  simp only [writtenPositive]
  split
  · rw [positional]
    split <;> simp
  · simp [scientific]

theorem written_ne_empty
    {number : Binary64}
    (finite : number.isFinite = true) :
    number.written ≠ "" := by
  cases number with
  | nan | infinite _ =>
      cases finite
  | finite negative significand exponent canonical =>
      simp only [written, writtenAs, ne_eq, String.ofList_eq_empty_iff]
      split
      · exact List.cons_ne_nil _ _
      · split
        · simp
        · exact writtenPositive_ne_nil _ significand exponent

end Binary64

namespace Cell

/-- Cells that are numbers show something. -/
theorem display_ne_empty_of_number
    {cell : Cell}
    {number : Binary64}
    (isNumber : cell.number? = .ok (some number)) :
    cell.display ≠ "" := by
  have isReading := reading?_of_number? isNumber
  cases cell with
  | int value =>
      exact Decimal.ofInt_ne_empty value
  | float value =>
      have finite : value.isFinite = true := by
        by_contra notFinite
        simp [number?, notFinite] at isNumber
      rw [display, displayFloat]
      split
      · split
        · exact Decimal.ofInt_ne_empty _
        · exact Binary64.written_ne_empty finite
      · rw [if_neg]
        · exact Binary64.written_ne_empty finite
        · cases value <;> simp_all [Binary64.isFinite, Binary64.isNaN]
  | text text =>
      rintro (rfl : text = "")
      rw [reading?_of_isBlank rfl] at isReading
      cases isReading
  | null | bool _ | date _ | moment _ =>
      cases isNumber

/-- Cells that show nothing are no numbers. -/
theorem number?_of_display_eq_empty
    {cell : Cell}
    (isEmpty : cell.display = "") :
    cell.number? = .ok none := by
  cases cell with
  | int value =>
      exact absurd isEmpty (Decimal.ofInt_ne_empty value)
  | float value =>
      have notFinite : ¬value.isFinite = true := fun finite =>
        display_ne_empty_of_number
          (show number? (.float value) = .ok (some value) from congrArg Except.ok (if_pos finite))
          isEmpty
      exact congrArg Except.ok (if_neg notFinite)
  | text text =>
      obtain rfl : text = "" := isEmpty
      exact congrArg Except.ok (numberOfText?_of_isBlank rfl)
  | null | bool _ | date _ | moment _ =>
      rfl

/-- The cell is a finite number or shows nothing. -/
def IsNumberOrEmpty (cell : Cell) : Prop :=
  (∃ number, cell.number? = .ok (some number)) ∨ cell.display = ""

theorem isNumberOrEmpty_iff
    {cell : Cell} :
    cell.IsNumberOrEmpty ↔ cell.reading?.isSome = true ∨ cell.display = "" := by
  refine or_congr_left ⟨fun ⟨number, isNumber⟩ => ?_, fun isSome => ?_⟩
  · rw [reading?_of_number? isNumber]
    rfl
  · obtain ⟨number, isReading⟩ := Option.isSome_iff_exists.mp isSome
    rw [reading?] at isReading
    cases answered : cell.number? with
    | error fault =>
        rw [answered] at isReading
        cases isReading
    | ok answer =>
        rw [answered] at isReading
        exact ⟨number, congrArg Except.ok isReading⟩

instance (cell : Cell) : Decidable cell.IsNumberOrEmpty :=
  decidable_of_iff _ isNumberOrEmpty_iff.symm

/-- Where the number of a cell stands; what is no number stands before all numbers. -/
def rank (cell : Cell) : WithBot ℚ :=
  cell.reading?.bind Binary64.value?

namespace IsNumberOrEmpty

variable {cell left right : Cell}

theorem isReadable
    (numberOrEmpty : cell.IsNumberOrEmpty) :
    cell.IsReadable := by
  rcases numberOrEmpty with ⟨number, isNumber⟩ | isEmpty
  · exact ⟨_, isNumber⟩
  · exact ⟨_, number?_of_display_eq_empty isEmpty⟩

/-- The key of such a cell has a number and a text, or neither. -/
theorem sortKey_cases
    (numberOrEmpty : cell.IsNumberOrEmpty) :
    (∃ number value,
      cell.sortKey.number = some number ∧ number.value? = some value ∧ cell.rank = value ∧
        cell.sortKey.text ≠ "") ∨
      (cell.sortKey.number = none ∧ cell.rank = ⊥ ∧ cell.sortKey.text = "") := by
  rcases numberOrEmpty with ⟨number, isNumber⟩ | isEmpty
  · have isReading := reading?_of_number? isNumber
    obtain ⟨value, isValue⟩ :=
      Binary64.isFinite_iff_exists_value.mp (isFinite_of_reading? isReading)
    refine .inl ⟨number, value, isReading, isValue, ?_,
      Text.lower_ne_empty (display_ne_empty_of_number isNumber)⟩
    rw [rank, isReading, Option.bind_some, isValue]
    rfl
  · have noReading := reading?_of_number? (number?_of_display_eq_empty isEmpty)
    refine .inr ⟨noReading, ?_, ?_⟩
    · rw [rank, noReading]
      rfl
    · rw [sortKey, isEmpty]
      rfl

theorem notAfter_iff
    (isLeft : left.IsNumberOrEmpty)
    (isRight : right.IsNumberOrEmpty) :
    left.sortKey.notAfter right.sortKey = true ↔ left.rank ≤ right.rank := by
  rcases isLeft.sortKey_cases with
    ⟨leftNumber, leftValue, hasLeft, isLeftValue, leftRank, leftShows⟩ |
      ⟨noLeft, leftRank, leftEmpty⟩
  · rcases isRight.sortKey_cases with
      ⟨rightNumber, rightValue, hasRight, isRightValue, rightRank, -⟩ |
        ⟨noRight, rightRank, rightEmpty⟩
    · rw [SortKey.notAfter, hasLeft, hasRight, leftRank, rightRank, WithBot.coe_le_coe,
        Bool.not_eq_true', ← Bool.not_eq_true, Binary64.lt_iff_of_value isRightValue isLeftValue,
        not_lt]
    · rw [SortKey.notAfter_iff_of_no_number (.inr noRight), leftRank, rightRank, rightEmpty]
      exact iff_of_false (Text.not_le_empty leftShows) (by simp)
  · rw [SortKey.notAfter_iff_of_no_number (.inl noLeft), leftRank, leftEmpty]
    exact iff_of_true (Text.empty_le _) bot_le

end IsNumberOrEmpty

end Cell

/-- Cells are ranked by their numbers when each of them is one or shows nothing. -/
theorem areRanked_of_numbers
    {cells : List Cell}
    (areNumbers : ∀ cell ∈ cells, cell.IsNumberOrEmpty) :
    AreRanked cells :=
  areRanked_of_relation (·.rank ≤ ·.rank) (fun cell member => (areNumbers cell member).isReadable)
    (fun left isLeft right isRight =>
      (areNumbers left isLeft).notAfter_iff (areNumbers right isRight))
    fun _ _ _ => le_trans

/-- Numbers beside a text that is none can go round in a circle. -/
example :
    (Cell.int 9).compareTo (.int 10) = .ok .lt ∧
      (Cell.int 10).compareTo (.text "5x") = .ok .lt ∧
        (Cell.text "5x").compareTo (.int 9) = .ok .lt := by
  decide +kernel

end Tabular
