import Tabular.Number.Amount

namespace Tabular.Cell

/-!
# Cells as numbers

The finite number that a cell stands for. Texts are trimmed first and have to be plain ASCII
numerals without grouping; truth values and dates are no numbers. An integer beyond the binary64
range has no nearest finite number, and asking for it is a fault.
-/

/-- The finite number of a numeral, which may stand between blanks. -/
def numberOfText? (text : String) : Option Binary64 :=
  let characters := Text.trimBoth text.toList
  if characters.all fun character => character.toNat < 128 && character != '_' then
    (Decimal.read? characters).filter Binary64.isFinite
  else none

/-- The finite number that a cell stands for. -/
def number? : Cell → Outcome (Option Binary64)
  | .int value => (Amount.realOfInt value).map some
  | .float value => .ok (if value.isFinite then some value else none)
  | .text value => .ok (numberOfText? value)
  | _ => .ok none

end Tabular.Cell
