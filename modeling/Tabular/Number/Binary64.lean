namespace Tabular

/-!
# Binary64 numbers

A binary64 number is a signed multiple `m · 2 ^ e` of a power of two with at most 53 bits in `m`,
an infinity, or the not-a-number. Each finite value has exactly one representation, so equality of
representations is equality of bit patterns; the order and the equality of *values*, where the two
zeros agree and the not-a-number agrees with nothing, are the functions `lt`, `le` and `eqv`.

Everything is exact arithmetic on `Nat` and `Int`: a result is first formed as a ratio and then
rounded once, to the nearest representable number, a tie going to the even significand.
-/

/--
The significands and exponents of the finite numbers: 53 bits, the top one set unless the exponent
is least.
-/
def CanonicalPair (significand : Nat) (exponent : Int) : Prop :=
  significand < Nat.pow 2 53 ∧ -1074 ≤ exponent ∧ exponent ≤ 971 ∧
    (Nat.pow 2 52 ≤ significand ∨ exponent = -1074)

instance (significand : Nat) (exponent : Int) : Decidable (CanonicalPair significand exponent) :=
  inferInstanceAs (Decidable (_ ∧ _ ∧ _ ∧ (_ ∨ _)))

/-- A binary64 number. -/
inductive Binary64 where
  | nan
  | infinite (negative : Bool)
  | finite (negative : Bool) (significand : Nat) (exponent : Int)
      (canonical : CanonicalPair significand exponent)
deriving DecidableEq

namespace Binary64

/-- The zero of the given sign. -/
def zero (negative : Bool) : Binary64 :=
  .finite negative 0 (-1074) (by decide)

instance : Inhabited Binary64 := ⟨zero false⟩

/-- The nearest integer to `numerator / denominator`, a tie going to the even one. -/
def nearestEven (numerator denominator : Nat) : Nat :=
  let quotient := numerator / denominator
  let remainder := numerator % denominator
  if 2 * remainder < denominator then quotient
  else if denominator < 2 * remainder then quotient + 1
  else if quotient % 2 = 0 then quotient else quotient + 1

/-- The ratio `numerator / denominator` divided by `2 ^ exponent`, again as a ratio. -/
def scaleDown (numerator denominator : Nat) (exponent : Int) : Nat × Nat :=
  match exponent with
  | .ofNat k => (numerator, denominator * Nat.pow 2 k)
  | .negSucc k => (numerator * Nat.pow 2 (k + 1), denominator)

/-- The greatest `k` with `2 ^ k ≤ numerator / denominator`, for a positive ratio. -/
def floorLog2 (numerator denominator : Nat) : Int :=
  let estimate : Int := numerator.log2 - denominator.log2
  let scaled := scaleDown numerator denominator estimate
  if scaled.2 ≤ scaled.1 then estimate else estimate - 1

/-- The exponent of the unit in the last place near a positive ratio. -/
def unitExponent (numerator denominator : Nat) : Int :=
  max (-1074) (floorLog2 numerator denominator - 52)

/-- The number with the given parts, an infinity when the exponent is too large. -/
def ofParts (negative : Bool) (significand : Nat) (exponent : Int) : Binary64 :=
  if canonical : CanonicalPair significand exponent then
    .finite negative significand exponent canonical
  else
    .infinite negative

/-- The binary64 number nearest to `± numerator / denominator`, for a positive denominator. -/
def ofRatio (negative : Bool) (numerator denominator : Nat) : Binary64 :=
  if numerator = 0 then
    zero negative
  else
    let exponent := unitExponent numerator denominator
    let scaled := scaleDown numerator denominator exponent
    let significand := nearestEven scaled.1 scaled.2
    if significand = Nat.pow 2 53 then ofParts negative (Nat.pow 2 52) (exponent + 1)
    else ofParts negative significand exponent

/-- The binary64 number nearest to `± significand · 2 ^ exponent`. -/
def ofScaled (negative : Bool) (significand : Nat) (exponent : Int) : Binary64 :=
  let scaled := scaleDown significand 1 (-exponent)
  ofRatio negative scaled.1 scaled.2

/-- The binary64 number nearest to an integer; an infinity when it is out of range. -/
def ofInt (value : Int) : Binary64 :=
  ofRatio (value < 0) value.natAbs 1

/-- The binary64 number of a small count. -/
def ofNat (value : Nat) : Binary64 :=
  ofRatio false value 1

/-- Neither an infinity nor the not-a-number. -/
def isFinite : Binary64 → Bool
  | .finite .. => true
  | _ => false

/-- The not-a-number. -/
def isNaN : Binary64 → Bool
  | .nan => true
  | _ => false

/-- The significand with its sign. -/
def signedSignificand (negative : Bool) (significand : Nat) : Int :=
  if negative then -(significand : Int) else significand

/-- Two scaled significands brought to the smaller of their exponents. -/
def align (left : Int) (leftExponent : Int) (right : Int) (rightExponent : Int) :
    Int × Int × Int :=
  let exponent := min leftExponent rightExponent
  (left * Nat.pow 2 (leftExponent - exponent).toNat,
    right * Nat.pow 2 (rightExponent - exponent).toNat,
    exponent)

/-! ## Order and equality of values -/

/-- The order of two values; none when one is not a number. -/
def compare? : Binary64 → Binary64 → Option Ordering
  | .nan, _ => none
  | _, .nan => none
  | .infinite leftNegative, .infinite rightNegative =>
      some (if leftNegative = rightNegative then .eq else if leftNegative then .lt else .gt)
  | .infinite negative, .finite .. => some (if negative then .lt else .gt)
  | .finite .., .infinite negative => some (if negative then .gt else .lt)
  | .finite leftNegative leftSignificand leftExponent _,
    .finite rightNegative rightSignificand rightExponent _ =>
      let aligned :=
        align (signedSignificand leftNegative leftSignificand) leftExponent
          (signedSignificand rightNegative rightSignificand) rightExponent
      some (compare aligned.1 aligned.2.1)

/-- The value on the left is less. -/
def lt (left right : Binary64) : Bool :=
  compare? left right == some .lt

/-- The two values are equal; the zeros agree and the not-a-number agrees with nothing. -/
def eqv (left right : Binary64) : Bool :=
  compare? left right == some .eq

/-- The value on the left is less or equal. -/
def le (left right : Binary64) : Bool :=
  lt left right || eqv left right

/-- Both zeros, and nothing else. -/
def isZero (value : Binary64) : Bool :=
  match value with
  | .finite _ significand _ _ => significand == 0
  | _ => false

/-! ## Arithmetic, each operation rounded once -/

/-- The number with the opposite sign. -/
def neg : Binary64 → Binary64
  | .nan => .nan
  | .infinite negative => .infinite (!negative)
  | .finite negative significand exponent canonical =>
      .finite (!negative) significand exponent canonical

/-- The rounded sum. An exact zero is negative only when both sides are negative zeros. -/
def add : Binary64 → Binary64 → Binary64
  | .nan, _ => .nan
  | _, .nan => .nan
  | .infinite leftNegative, .infinite rightNegative =>
      if leftNegative = rightNegative then .infinite leftNegative else .nan
  | .infinite negative, .finite .. => .infinite negative
  | .finite .., .infinite negative => .infinite negative
  | .finite leftNegative leftSignificand leftExponent _,
    .finite rightNegative rightSignificand rightExponent _ =>
      let aligned :=
        align (signedSignificand leftNegative leftSignificand) leftExponent
          (signedSignificand rightNegative rightSignificand) rightExponent
      let total := aligned.1 + aligned.2.1
      if total = 0 then zero (leftNegative && rightNegative)
      else ofScaled (total < 0) total.natAbs aligned.2.2

/-- The rounded difference. -/
def sub (left right : Binary64) : Binary64 :=
  add left (neg right)

/-- The rounded product. -/
def mul : Binary64 → Binary64 → Binary64
  | .nan, _ => .nan
  | _, .nan => .nan
  | .infinite leftNegative, .infinite rightNegative => .infinite (leftNegative != rightNegative)
  | .infinite leftNegative, .finite rightNegative significand _ _ =>
      if significand = 0 then .nan else .infinite (leftNegative != rightNegative)
  | .finite leftNegative significand _ _, .infinite rightNegative =>
      if significand = 0 then .nan else .infinite (leftNegative != rightNegative)
  | .finite leftNegative leftSignificand leftExponent _,
    .finite rightNegative rightSignificand rightExponent _ =>
      ofScaled (leftNegative != rightNegative) (leftSignificand * rightSignificand)
        (leftExponent + rightExponent)

/-- The rounded quotient; a nonzero number over a zero is an infinity. -/
def div : Binary64 → Binary64 → Binary64
  | .nan, _ => .nan
  | _, .nan => .nan
  | .infinite _, .infinite _ => .nan
  | .infinite leftNegative, .finite rightNegative .. => .infinite (leftNegative != rightNegative)
  | .finite leftNegative .., .infinite rightNegative => zero (leftNegative != rightNegative)
  | .finite leftNegative leftSignificand leftExponent _,
    .finite rightNegative rightSignificand rightExponent _ =>
      if rightSignificand = 0 then
        if leftSignificand = 0 then .nan else .infinite (leftNegative != rightNegative)
      else
        let scaled := scaleDown leftSignificand rightSignificand (rightExponent - leftExponent)
        ofRatio (leftNegative != rightNegative) scaled.1 scaled.2

/-- The greatest `r` with `r * r ≤ n`, found bit by bit below `2 ^ bits`. -/
def sqrtBits (n : Nat) : Nat → Nat → Nat
  | 0, root => root
  | bits + 1, root =>
      let candidate := root + Nat.pow 2 bits
      sqrtBits n bits (if candidate * candidate ≤ n then candidate else root)

/-- The integer part of a square root. -/
def floorSqrt (n : Nat) : Nat :=
  sqrtBits n (n.log2 / 2 + 1) 0

/--
The rounded square root. The significand is scaled by an even power of two until its integer root
has more than 54 bits; a root that is not exact is represented by its integer part and a half, which
lies on the same side of every rounding boundary.
-/
def sqrt : Binary64 → Binary64
  | .nan => .nan
  | .infinite negative => if negative then .nan else .infinite false
  | .finite negative significand exponent canonical =>
      if significand = 0 then .finite negative significand exponent canonical
      else if negative then .nan
      else
        let shift : Nat := if exponent % 2 = 0 then 114 else 115
        let radicand := significand * Nat.pow 2 shift
        let root := floorSqrt radicand
        let halved := (exponent - shift) / 2
        if root * root = radicand then ofScaled false root halved
        else ofScaled false (2 * root + 1) (halved - 1)

/-! ## Integers within and around a number -/

/-- The greatest integer not above a finite number. -/
def floor? : Binary64 → Option Int
  | .finite negative significand exponent _ =>
      some <|
        if 0 ≤ exponent then signedSignificand negative significand * Nat.pow 2 exponent.toNat
        else signedSignificand negative significand / Nat.pow 2 (-exponent).toNat
  | _ => none

/-- The integer that a finite number is, if it is one. -/
def toInt? : Binary64 → Option Int
  | .finite negative significand exponent _ =>
      if 0 ≤ exponent then
        some (signedSignificand negative significand * Nat.pow 2 exponent.toNat)
      else if significand % Nat.pow 2 (-exponent).toNat = 0 then
        some (signedSignificand negative (significand / Nat.pow 2 (-exponent).toNat))
      else none
  | _ => none

end Binary64

end Tabular
