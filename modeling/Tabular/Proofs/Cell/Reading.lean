import Mathlib.Data.List.TakeWhile
import Tabular.Cell.Number
import Tabular.Filter.Evaluation
import Tabular.Proofs.Number.Finite
import Tabular.Proofs.Number.Zeros

namespace Tabular

/-!
# The numbers that cells are read as

A cell is read as a finite number or as none. Blank cells are read as none, so an analysis that
leaves blank cells out sees the same numbers as one that reads them all.
-/

namespace Cell

/-- The number that a cell is read as. -/
def reading? (cell : Cell) : Option Binary64 :=
  cell.number?.toOption.join

theorem reading?_of_number?
    {cell : Cell}
    {number : Option Binary64}
    (isNumber : cell.number? = .ok number) :
    cell.reading? = number := by
  rw [reading?, isNumber]
  cases number <;> rfl

theorem numberOfText?_of_isBlank
    {text : String}
    (blank : Text.isBlank text = true) :
    numberOfText? text = none := by
  have front : Text.trimFront text.toList = [] := by
    rw [Text.trimFront, List.dropWhile_eq_nil_iff]
    exact List.all_eq_true.mp blank
  rw [numberOfText?, Text.trimBoth, front]
  rfl

/-- There is no number in a blank cell. -/
theorem reading?_of_isBlank
    {cell : Cell}
    (blank : cell.isBlank = true) :
    cell.reading? = none := by
  cases cell with
  | null =>
      rfl
  | text text =>
      exact reading?_of_number? (congrArg Except.ok (numberOfText?_of_isBlank blank))
  | float value =>
      cases value with
      | nan =>
          rfl
      | infinite _ | finite _ _ _ _ =>
          cases blank
  | bool _ | int _ | date _ | moment _ =>
      cases blank

/-- Numbers that are read are finite. -/
theorem isFinite_of_reading?
    {cell : Cell}
    {number : Binary64}
    (isReading : cell.reading? = some number) :
    number.isFinite = true := by
  cases cell with
  | text text =>
      have found : numberOfText? text = some number := isReading
      rw [numberOfText?] at found
      split at found
      · exact (Option.filter_eq_some_iff.mp found).2
      · cases found
  | float value =>
      have found : (if value.isFinite = true then some value else none) = some number :=
        (reading?_of_number? rfl).symm.trans isReading
      split at found
      · next finite =>
          exact Option.some.inj found ▸ finite
      · cases found
  | int value =>
      rw [reading?, number?, Amount.realOfInt] at isReading
      obtain ⟨_, _, _, finite⟩ | infinite :=
        Binary64.ofRatio_cases (decide (value < 0)) value.natAbs 1
      · rw [Binary64.ofInt, finite] at isReading
        cases isReading
        rfl
      · rw [Binary64.ofInt, infinite] at isReading
        cases isReading
  | null | bool _ | date _ | moment _ =>
      cases isReading

end Cell

/-!
## Cells that are read alike

Two cells are read alike when each is read as a number, the same one, or neither is. The sign of
zero does not count: both zeros are the same number. Comparisons of numbers answer the same for
cells that are read alike.
-/

namespace Cell

/-- Both cells are read as one number, up to the sign of zero, or both as none. -/
def ReadAlike (cell other : Cell) : Prop :=
  ∃ number numberToo, cell.number? = .ok number ∧ other.number? = .ok numberToo ∧
    number.map Binary64.unsigned = numberToo.map Binary64.unsigned

variable {cell other third : Cell} {number : Option Binary64}

theorem readAlike_of_number?
    (isNumber : cell.number? = .ok number)
    (isNumberToo : other.number? = .ok number) :
    ReadAlike cell other :=
  ⟨number, number, isNumber, isNumberToo, rfl⟩

theorem ReadAlike.symm
    (alike : ReadAlike cell other) :
    ReadAlike other cell := by
  obtain ⟨number, numberToo, isNumber, isNumberToo, same⟩ := alike
  exact ⟨numberToo, number, isNumberToo, isNumber, same.symm⟩

theorem ReadAlike.trans
    (alike : ReadAlike cell other)
    (alikeToo : ReadAlike other third) :
    ReadAlike cell third := by
  obtain ⟨number, numberToo, isNumber, isNumberToo, same⟩ := alike
  obtain ⟨again, thirdNumber, isAgain, isThird, sameToo⟩ := alikeToo
  obtain rfl := Except.ok.inj (isNumberToo.symm.trans isAgain)
  exact ⟨number, thirdNumber, isNumber, isThird, same.trans sameToo⟩

/-- Numbers that are the same without the sign of zero are equal. -/
theorem eqv_of_unsigned_eq
    {left right : Binary64}
    (isFinite : left.isFinite = true)
    (same : left.unsigned = right.unsigned) :
    left.eqv right = true := by
  obtain ⟨value, isValue⟩ :=
    Binary64.isFinite_iff_exists_value.mp ((Binary64.isFinite_unsigned left).trans isFinite)
  rw [← Binary64.eqv_unsigned, ← same]
  exact (Binary64.eqv_iff_of_value isValue isValue).mpr rfl

/-- The numbers of cells that are read alike are equal, or both cells have none. -/
theorem ReadAlike.rel
    (alike : ReadAlike cell other)
    (isNumber : cell.number? = .ok number) :
    ∃ numberToo, other.number? = .ok numberToo ∧
      Option.Rel (fun left right => left.eqv right = true) number numberToo := by
  obtain ⟨found, numberToo, isFound, isNumberToo, same⟩ := alike
  obtain rfl := Except.ok.inj (isNumber.symm.trans isFound)
  refine ⟨numberToo, isNumberToo, ?_⟩
  cases number with
  | none =>
      obtain rfl := Option.map_eq_none_iff.mp same.symm
      exact .none
  | some left =>
      obtain ⟨right, rfl, sameNumber⟩ := Option.map_eq_some_iff.mp same.symm
      have isFinite := isFinite_of_reading? (reading?_of_number? isNumber)
      exact .some (eqv_of_unsigned_eq isFinite sameNumber.symm)

end Cell

namespace NumberOperator

theorem holds_unsigned
    (operator : NumberOperator)
    (left right : Binary64) :
    operator.holds left.unsigned right.unsigned = operator.holds left right := by
  cases operator <;>
    simp only [holds, Binary64.eqv_unsigned, Binary64.lt_unsigned, Binary64.le_unsigned]

/-- A comparison of numbers answers the same for cells that are read alike. -/
theorem compare_of_readAlike
    {cell other : Cell}
    (operator : NumberOperator)
    (alike : Cell.ReadAlike cell other)
    (value : Cell) :
    operator.compare cell value = operator.compare other value := by
  obtain ⟨number, numberToo, isNumber, isNumberToo, same⟩ := alike
  simp only [compare, isNumber, isNumberToo]
  cases number with
  | none =>
      obtain rfl := Option.map_eq_none_iff.mp same.symm
      rfl
  | some left =>
      obtain ⟨right, rfl, sameNumber⟩ := Option.map_eq_some_iff.mp same.symm
      have sameAnswer (compared : Binary64) :
          operator.holds left compared = operator.holds right compared := by
        rw [← holds_unsigned, ← sameNumber, holds_unsigned]
      cases value.number? with
      | error fault =>
          rfl
      | ok compared =>
          cases compared with
          | none =>
              rfl
          | some compared =>
              change Except.ok (Verdict.mk (operator.holds left compared) 0) =
                Except.ok (Verdict.mk (operator.holds right compared) 0)
              rw [sameAnswer]

end NumberOperator

end Tabular
