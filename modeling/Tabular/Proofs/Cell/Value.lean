import Tabular.Cell.Value
import Tabular.Proofs.Number.Value

namespace Tabular

/-!
# What cells denote

Cells are the same value when they denote the same thing. So being the same value is symmetric and
transitive, and all that keeps it from being reflexive is the not-a-number, which denotes nothing.
-/

/-- What a cell can denote. -/
inductive Meaning where
  | nothing
  | number (value : ℚ)
  | infinity (negative : Bool)
  | text (value : String)
  | date (value : Calendar.Date)
  | moment (hasOffset : Bool) (instant : Calendar.Instant)

/-- What a number denotes. -/
def Binary64.meaning? (number : Binary64) : Option Meaning :=
  match number with
  | .nan => none
  | .infinite negative => some (.infinity negative)
  | .finite .. => number.value?.map .number

/-- What a cell denotes. -/
def Cell.meaning? : Cell → Option Meaning
  | .null => some .nothing
  | .bool value => some (.number (if value then 1 else 0 : Int))
  | .int value => some (.number value)
  | .float value => value.meaning?
  | .text value => some (.text value)
  | .date value => some (.date value)
  | .moment value => some (.moment value.offset.isSome value.instant)

namespace Meaning

variable {δ ε φ : Type}

/-- Both sides denote something, and the same. -/
def Agree (left right : Option δ) : Prop :=
  ∃ denoted, left = some denoted ∧ right = some denoted

@[simp] theorem agree_some_right
    {left : Option δ}
    {right : δ} :
    Agree left (some right) ↔ left = some right := by
  simp [Agree]

theorem agree_comm
    {left right : Option δ} :
    Agree left right ↔ Agree right left := by
  simp only [Agree, and_comm]

theorem Agree.trans
    {left middle right : Option δ}
    (agree : Agree left middle)
    (agreeNext : Agree middle right) :
    Agree left right := by
  obtain ⟨denoted, isLeft, isMiddle⟩ := agree
  obtain ⟨denotedNext, isMiddleNext, isRight⟩ := agreeNext
  rw [isMiddle, Option.some.injEq] at isMiddleNext
  exact ⟨denoted, isLeft, isMiddleNext ▸ isRight⟩

/-- Images under a function that keeps things apart agree when the things do. -/
theorem agree_map_iff
    {image : δ → ε}
    (apart : Function.Injective image)
    {left right : Option δ} :
    Agree (left.map image) (right.map image) ↔ Agree left right := by
  cases left <;> cases right <;> simp [Agree, apart.eq_iff]

/-- What is put together of two parts agrees when both parts do. -/
theorem agree_bind_map_iff
    {combine : δ → ε → φ}
    (apart : Function.Injective2 combine)
    {left right : Option δ}
    {leftNext rightNext : Option ε} :
    Agree (left.bind fun first => leftNext.map (combine first))
        (right.bind fun first => rightNext.map (combine first)) ↔
      Agree left right ∧ Agree leftNext rightNext := by
  cases left <;> cases right <;> cases leftNext <;> cases rightNext <;>
    simp [Agree, apart.eq_iff]

end Meaning

/-! ## Numbers -/

namespace Binary64

/-- A finite number denotes its value. -/
theorem meaning?_of_value
    {number : Binary64}
    {value : ℚ}
    (isValue : number.value? = some value) :
    number.meaning? = some (.number value) := by
  obtain ⟨negative, significand, exponent, canonical, rfl, _⟩ := exists_of_value isValue
  rw [meaning?, isValue]
  rfl

/-- Numbers are equal when they denote the same. -/
theorem eqv_iff
    (left right : Binary64) :
    left.eqv right = true ↔ Meaning.Agree left.meaning? right.meaning? := by
  cases left with
  | nan =>
      cases right <;> simp [eqv, compare?, meaning?, Meaning.Agree]
  | infinite leftNegative =>
      cases right with
      | nan =>
          simp [eqv, compare?, meaning?, Meaning.Agree]
      | infinite rightNegative =>
          cases leftNegative <;> cases rightNegative <;>
            simp [eqv, compare?, meaning?, Meaning.Agree]
      | finite rightNegative _ _ _ =>
          cases leftNegative <;> simp [eqv, compare?, meaning?, value?, Meaning.Agree]
  | finite leftNegative leftSignificand leftExponent leftCanonical =>
      cases right with
      | nan =>
          simp [eqv, compare?, meaning?, Meaning.Agree]
      | infinite rightNegative =>
          cases rightNegative <;> simp [eqv, compare?, meaning?, value?, Meaning.Agree]
      | finite rightNegative rightSignificand rightExponent rightCanonical =>
          rw [eqv_iff_of_value rfl rfl, meaning?_of_value rfl, meaning?_of_value rfl]
          simp

/-- A number is an integer when it denotes it. -/
theorem sameNumber_iff
    (integer : Int)
    (number : Binary64) :
    Cell.sameNumber integer number = true ↔
      number.meaning? = some (.number integer) := by
  rw [Cell.sameNumber, beq_iff_eq, toInt?_eq_some_iff]
  cases number <;> simp [value?, meaning?]

/-- A number denotes nothing but a number or an infinity. -/
theorem meaning?_ne_some
    {number : Binary64}
    {denoted : Meaning}
    (notNumber : ∀ value, denoted ≠ .number value)
    (notInfinity : ∀ negative, denoted ≠ .infinity negative) :
    number.meaning? ≠ some denoted := by
  intro isDenoted
  cases number with
  | nan =>
      simp [meaning?] at isDenoted
  | infinite negative =>
      exact notInfinity negative (Option.some.inj isDenoted).symm
  | finite negative significand exponent canonical =>
      rw [meaning?_of_value rfl] at isDenoted
      exact notNumber _ (Option.some.inj isDenoted).symm

end Binary64

/-! ## Cells -/

namespace Cell

/-- A number and another cell are the same value when they denote the same. -/
theorem sameValue_float_iff
    (number : Binary64)
    (other : Cell) :
    (Cell.float number).sameValue other = true ↔
      Meaning.Agree number.meaning? other.meaning? := by
  cases other with
  | float value =>
      exact Binary64.eqv_iff number value
  | bool value =>
      simp only [sameValue, wholeValue?, Option.any_some, Binary64.sameNumber_iff, meaning?,
        Meaning.agree_some_right]
  | int value =>
      simp only [sameValue, wholeValue?, Option.any_some, Binary64.sameNumber_iff, meaning?,
        Meaning.agree_some_right]
  | null | text value | date value | moment value =>
      simp [sameValue, wholeValue?, meaning?, Binary64.meaning?_ne_some]

/-- Cells are the same value when they denote the same. -/
theorem sameValue_iff
    (left right : Cell) :
    left.sameValue right = true ↔
      Meaning.Agree left.meaning? right.meaning? := by
  cases left with
  | float number =>
      exact sameValue_float_iff number right
  | null | bool value | int value | text value | date value | moment value =>
      cases right with
      | float number =>
          rw [Meaning.agree_comm]
          refine Iff.trans (Eq.congr_left ?_) (sameValue_float_iff number _)
          simp only [sameValue]
      | null | bool other | int other | text other | date other | moment other =>
          simp [sameValue, meaning?, wholeValue?, -Int.cast_ite]

end Cell

end Tabular
