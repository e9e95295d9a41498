import Tabular.Number.Shortest

namespace Tabular

/-!
# Written numbers

How numbers are written in answers: integers by their digits, binary64 numbers by the shortest
decimal that reads back, in positional notation for moderate exponents and in scientific notation
elsewhere.
-/

/-- The decisions of a float format that the digits do not settle. -/
structure FloatFormat where
  /-- The least decimal exponent written in positional notation. -/
  leastPositional : Int
  /-- The greatest decimal exponent written in positional notation. -/
  greatestPositional : Int
  /-- The least number of digits of a written exponent. -/
  exponentDigits : Nat
  nanText : String
  infinityText : String
  minusInfinityText : String

/-- Positional from `0.0001` up to sixteen digits before the point, exponents of two digits. -/
def FloatFormat.plain : FloatFormat where
  leastPositional := -4
  greatestPositional := 15
  exponentDigits := 2
  nanText := "nan"
  infinityText := "inf"
  minusInfinityText := "-inf"

/-- The decimal digits of a natural number. -/
def Decimal.digits (value : Nat) : List Char :=
  Nat.toDigits 10 value

/-- An integer in decimal. -/
def Decimal.ofInt (value : Int) : String :=
  String.ofList
    (if value < 0 then '-' :: Decimal.digits value.natAbs else Decimal.digits value.natAbs)

/-- Digits filled up at the front with zeros. -/
def Decimal.padFront (width : Nat) (digits : List Char) : List Char :=
  List.replicate (width - digits.length) '0' ++ digits

namespace Binary64

/-- The digits without the zeros at the end, and the decimal exponent of the first digit. -/
def scientificDigits (digits : Nat) (power : Int) : List Char × Int :=
  let written := Decimal.digits digits
  let kept := (written.reverse.dropWhile (· == '0')).reverse
  (kept, power + written.length - 1)

/-- Positional notation, always with a point and a digit after it. -/
def positional (digits : List Char) (exponent : Int) : List Char :=
  if exponent < 0 then
    "0.".toList ++ List.replicate (-exponent - 1).toNat '0' ++ digits
  else
    let wholeLength := exponent.toNat + 1
    let whole := digits.take wholeLength
    let fraction := digits.drop wholeLength
    whole ++ List.replicate (wholeLength - whole.length) '0' ++ ['.'] ++
      (if fraction.isEmpty then ['0'] else fraction)

/-- Scientific notation: one digit before the point, and no point when it is the only digit. -/
def scientific (format : FloatFormat) (digits : List Char) (exponent : Int) : List Char :=
  digits.take 1 ++ (if digits.length ≤ 1 then [] else '.' :: digits.drop 1) ++
    ['e', if exponent < 0 then '-' else '+'] ++
    Decimal.padFront format.exponentDigits (Decimal.digits exponent.natAbs)

/-- A positive number in the given format. -/
def writtenPositive (format : FloatFormat) (significand : Nat) (exponent : Int) : List Char :=
  let (digits, power) := shortest significand exponent
  let (digits, exponent) := scientificDigits digits power
  if format.leastPositional ≤ exponent ∧ exponent ≤ format.greatestPositional then
    positional digits exponent
  else scientific format digits exponent

/-- A binary64 number in the given format. -/
def writtenAs (format : FloatFormat) : Binary64 → String
  | .nan => format.nanText
  | .infinite negative => if negative then format.minusInfinityText else format.infinityText
  | .finite negative significand exponent _ =>
      let body :=
        if significand = 0 then "0.0".toList else writtenPositive format significand exponent
      String.ofList (if negative then '-' :: body else body)

/-- A binary64 number in the plain format. -/
def written (value : Binary64) : String :=
  value.writtenAs .plain

end Binary64

end Tabular
