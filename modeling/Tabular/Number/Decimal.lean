import Tabular.Number.Binary64

namespace Tabular

/-!
# Decimal numerals

Reading a decimal numeral as the nearest binary64 number. A numeral is a sign, digits with at most
one point among or around them, and an optional exponent; the words for infinity and not-a-number
are numerals too, in any case of letters. There is no limit to the number of digits.
-/

namespace Decimal

/-- The value of a string of ASCII digits. -/
def digitsValue (digits : List Char) : Nat :=
  digits.foldl (fun value digit => 10 * value + (digit.toNat - '0'.toNat)) 0

/-- The digits at the front and what follows them. -/
def spanDigits (characters : List Char) : List Char × List Char :=
  (characters.takeWhile Char.isDigit, characters.dropWhile Char.isDigit)

/-- A sign at the front, true for a minus, and what follows it. -/
def takeSign : List Char → Bool × List Char
  | '-' :: rest => (true, rest)
  | '+' :: rest => (false, rest)
  | characters => (false, characters)

/-- The exponent part of a numeral, which has to be the whole of the characters. -/
def readExponent? : List Char → Option Int
  | [] => some 0
  | mark :: rest =>
      if mark = 'e' ∨ mark = 'E' then
        let (negative, digits) := takeSign rest
        if digits.isEmpty || !digits.all Char.isDigit then none
        else if negative then some (-(digitsValue digits : Int)) else some (digitsValue digits)
      else none

/-- How many digits a number has; none for zero. -/
def digitCount (value : Nat) : Nat :=
  if value = 0 then 0 else (Nat.toDigits 10 value).length

/--
The binary64 number nearest to `± digits · 10 ^ exponent`. Values beyond the range of the format on
either side are decided by their order of magnitude alone.
-/
def toBinary64 (negative : Bool) (digits : Nat) (exponent : Int) : Binary64 :=
  if digits = 0 then Binary64.zero negative
  else if 400 < exponent + digitCount digits then .infinite negative
  else if exponent + digitCount digits < -400 then Binary64.zero negative
  else if 0 ≤ exponent then Binary64.ofRatio negative (digits * Nat.pow 10 exponent.toNat) 1
  else Binary64.ofRatio negative digits (Nat.pow 10 (-exponent).toNat)

/-- An unsigned decimal numeral. -/
def readUnsigned? (negative : Bool) (characters : List Char) : Option Binary64 :=
  let (whole, rest) := spanDigits characters
  let (fraction, rest) :=
    match rest with
    | '.' :: rest => spanDigits rest
    | rest => ([], rest)
  if whole.isEmpty && fraction.isEmpty then none
  else
    (readExponent? rest).map fun exponent =>
      toBinary64 negative (digitsValue (whole ++ fraction)) (exponent - fraction.length)

/-- A numeral with its sign, or one of the words for the numbers that are not finite. -/
def read? (characters : List Char) : Option Binary64 :=
  let (negative, body) := takeSign characters
  let word := String.ofList (body.map Char.toLower)
  if word = "inf" ∨ word = "infinity" then some (.infinite negative)
  else if word = "nan" then some .nan
  else readUnsigned? negative body

end Decimal

end Tabular
