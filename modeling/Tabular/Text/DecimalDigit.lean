namespace Tabular.Text

/-!
# Decimal digits

The decimal digits of all scripts, in the Unicode 14 classification. They come in runs of ten in
ascending order of value, so a table of the code points of the zeros says which characters they are
and what they are worth.
-/

/-- The code points of the digits worth zero, ascending. -/
def digitZeros : List Nat :=
  [
   48, 1632, 1776, 1984, 2406, 2534, 2662, 2790, 2918, 3046, 3174, 3302, 3430, 3558, 3664, 3792,
   3872, 4160, 4240, 6112, 6160, 6470, 6608, 6784, 6800, 6992, 7088, 7232, 7248, 42528, 43216,
   43264, 43472, 43504, 43600, 44016, 65296, 66720, 68912, 69734, 69872, 69942, 70096, 70384,
   70736, 70864, 71248, 71360, 71472, 71904, 72016, 72784, 73040, 73120, 92768, 92864, 93008,
   120782, 120792, 120802, 120812, 120822, 123200, 123632, 125264, 130032]

/-- The value of a decimal digit of any script. -/
def digitValue? (character : Char) : Option Nat :=
  if character.toNat < 128 then
    if character.isDigit then some (character.toNat - 48) else none
  else
    (digitZeros.find? fun start => start ≤ character.toNat && character.toNat < start + 10).map
      fun start => character.toNat - start

/-- A decimal digit of any script. -/
def isDecimalDigit (character : Char) : Bool :=
  (digitValue? character).isSome

end Tabular.Text
