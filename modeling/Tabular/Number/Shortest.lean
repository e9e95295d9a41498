import Tabular.Number.Decimal

namespace Tabular

/-!
# The shortest decimal that reads back

Every finite binary64 number is written with the fewest significant digits that read back as the
same number. On each decimal grid only the two neighbours of the value can be nearest to it, so the
search tries those two on the grids of one digit, two digits, and so on; seventeen always suffice.
-/

namespace Binary64

/-- The greatest `k` with `10 ^ k ≤ numerator / denominator`, for a positive ratio. -/
def floorLog10 (numerator denominator : Nat) : Int :=
  let reaches (k : Int) : Bool :=
    if 0 ≤ k then denominator * Nat.pow 10 k.toNat ≤ numerator
    else denominator ≤ numerator * Nat.pow 10 (-k).toNat
  let estimate := floorLog2 numerator denominator * 30103 / 100000
  if reaches (estimate + 1) then estimate + 1
  else if reaches estimate then estimate
  else estimate - 1

/-- The ratio that a significand and an exponent stand for. -/
def partsRatio (significand : Nat) (exponent : Int) : Nat × Nat :=
  scaleDown significand 1 (-exponent)

/-- A ratio measured in units of `10 ^ power`, again as a ratio. -/
def inDecimalUnits (numerator denominator : Nat) (power : Int) : Nat × Nat :=
  if 0 ≤ power then (numerator, denominator * Nat.pow 10 power.toNat)
  else (numerator * Nat.pow 10 (-power).toNat, denominator)

/--
The decimal of `count` digits nearest to the number, if one of that length reads back as it: digits
and the power of ten of the last of them. Of two equally near, the even one is taken.
-/
def onGrid? (value : Binary64) (numerator denominator : Nat) (power : Int) : Option (Nat × Int) :=
  let scaled := inDecimalUnits numerator denominator power
  let below := scaled.1 / scaled.2
  let remainder := scaled.1 % scaled.2
  let readsBack (digits : Nat) : Bool := Decimal.toBinary64 false digits power == value
  let upperNearer : Bool :=
    scaled.2 < 2 * remainder || (2 * remainder == scaled.2 && below % 2 == 1)
  let (first, second) := if upperNearer then (below + 1, below) else (below, below + 1)
  if readsBack first then some (first, power)
  else if readsBack second then some (second, power)
  else none

/-- The first grid with a hit, at most `grids` of them, each ten times finer than the one before. -/
def searchGrids (value : Binary64) (numerator denominator : Nat) : Nat → Int → Nat × Int
  | 0, power => (numerator / denominator, power)
  | grids + 1, power =>
      (onGrid? value numerator denominator power).getD
        (searchGrids value numerator denominator grids (power - 1))

/-- The digits and the power of ten of the shortest decimal that reads back as a positive number. -/
def shortest (significand : Nat) (exponent : Int) : Nat × Int :=
  let ratio := partsRatio significand exponent
  searchGrids (ofParts false significand exponent) ratio.1 ratio.2 17
    (floorLog10 ratio.1 ratio.2)

end Binary64

end Tabular
