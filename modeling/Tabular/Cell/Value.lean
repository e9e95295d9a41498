import Tabular.Cell

namespace Tabular.Cell

/-!
# Equality of values

Two cells are the same value when they denote the same thing: numbers agree by their exact values,
where true counts as one and false as zero, and texts agree only with equal texts. A missing value
agrees with itself, and the not-a-number with nothing.
-/

/-- The integer that a truth value or an integer counts as. -/
def wholeValue? : Cell → Option Int
  | .bool value => some (if value then 1 else 0)
  | .int value => some value
  | _ => none

/-- The integer and the binary64 number are the same number. -/
def sameNumber (integer : Int) (number : Binary64) : Bool :=
  number.toInt? == some integer

/-- Two cells are the same value. -/
def sameValue (left right : Cell) : Bool :=
  match left, right with
  | .null, .null => true
  | .text left, .text right => left == right
  | .date left, .date right => left == right
  | .moment left, .moment right =>
      left.offset.isSome == right.offset.isSome && left.instant == right.instant
  | .float left, .float right => left.eqv right
  | .float number, other => other.wholeValue?.any fun integer => sameNumber integer number
  | other, .float number => other.wholeValue?.any fun integer => sameNumber integer number
  | left, right =>
      match left.wholeValue?, right.wholeValue? with
      | some left, some right => left == right
      | _, _ => false

/-- Two lists hold the same values. -/
def sameValues (left right : List Cell) : Bool :=
  left.length == right.length && (left.zip right).all fun pair => pair.1.sameValue pair.2

end Tabular.Cell
