import Tabular.Fault

namespace Tabular

/-!
# Amounts and half-up rounding

An amount is a whole number of any size or a binary64 number. Amounts are rounded half up: halves go
toward positive infinity, so `2.5` becomes `3` and `-2.5` becomes `-2`. Rounding to no decimals
gives a whole number. The rounding itself is carried out in binary64, one correctly rounded step at
a time.
-/

/-- A whole number or a binary64 number. -/
inductive Amount where
  | whole (value : Int)
  | real (value : Binary64)
deriving DecidableEq, Inhabited

namespace Amount

/-- The nearest binary64 number to an integer, which has to be in range. -/
def realOfInt (value : Int) : Outcome Binary64 :=
  match Binary64.ofInt value with
  | .infinite _ => .error .overflow
  | number => .ok number

/-- The amount as a binary64 number. -/
def toReal : Amount → Outcome Binary64
  | .whole value => realOfInt value
  | .real value => .ok value

/-- The amount as a cell. -/
def toCell : Amount → Cell
  | .whole value => .int value
  | .real value => .float value

/-- The sum of two amounts; whole numbers add exactly. -/
def add (left right : Amount) : Outcome Amount :=
  match left, right with
  | .whole left, .whole right => .ok (.whole (left + right))
  | left, right => do
      let left ← left.toReal
      let right ← right.toReal
      .ok (.real (left.add right))

/-- The product of two amounts; whole numbers multiply exactly. -/
def mul (left right : Amount) : Outcome Amount :=
  match left, right with
  | .whole left, .whole right => .ok (.whole (left * right))
  | left, right => do
      let left ← left.toReal
      let right ← right.toReal
      .ok (.real (left.mul right))

/-- The sum of amounts from left to right, starting from the whole zero. -/
def sum (amounts : List Amount) : Outcome Amount :=
  amounts.foldlM add (.whole 0)

/-- The power of ten with the given exponent, whole unless the exponent is negative. -/
def powerOfTen (exponent : Int) : Amount :=
  if 0 ≤ exponent then .whole (Nat.pow 10 exponent.toNat)
  else .real (Binary64.ofRatio false 1 (Nat.pow 10 (-exponent).toNat))

/-- The greatest integer not above a number. -/
def floorOf (value : Binary64) : Outcome Int :=
  match value.floor? with
  | some floored => .ok floored
  | none => .error (if value.isNaN then .notANumber else .overflow)

/-- The correctly rounded quotient of two integers. -/
def quotient (numerator denominator : Int) : Outcome Binary64 :=
  match
    Binary64.ofRatio (decide (numerator < 0) != decide (denominator < 0)) numerator.natAbs
      denominator.natAbs with
  | .infinite _ => .error .overflow
  | number => .ok number

/-- A whole number divided by a power of ten. -/
def scaleBack (value : Int) : Amount → Outcome Binary64
  | .whole factor => quotient value factor
  | .real factor => do
      let value ← realOfInt value
      .ok (value.div factor)

/-- A finite amount rounded half up, to the given number of decimals. -/
def roundFinite (amount : Amount) (digits : Int) : Outcome Amount := do
  let factor := powerOfTen digits
  let scaled ← amount.mul factor
  let shifted ← scaled.add (.real (Binary64.ofRatio false 1 2))
  let shifted ← shifted.toReal
  let floored ← floorOf shifted
  let rounded ← scaleBack floored factor
  if digits = 0 then
    let integer ← floorOf rounded
    .ok (.whole integer)
  else .ok (.real rounded)

/-- An amount rounded half up; infinities and the not-a-number pass through. -/
def roundHalfUp (amount : Amount) (digits : Int) : Outcome Amount := do
  let value ← amount.toReal
  if value.isFinite then roundFinite amount digits else .ok amount

end Amount

/-- A binary64 number rounded half up to the given number of decimals. -/
def Binary64.roundHalfUp (value : Binary64) (digits : Int) : Outcome Amount :=
  (Amount.real value).roundHalfUp digits

/-- A binary64 number rounded half up to a whole number. -/
def Binary64.roundToWhole (value : Binary64) : Outcome Int := do
  match ← value.roundHalfUp 0 with
  | .whole rounded => .ok rounded
  | .real rest => Amount.floorOf rest

end Tabular
