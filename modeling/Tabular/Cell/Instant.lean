import Tabular.Calendar.Phrase
import Tabular.Cell

namespace Tabular

/-!
# Cells as instants

The point of the timeline that a cell stands for. A text is tried only when it has the shape of a
date somewhere: three groups of digits with slashes or hyphens between them. Offsets are counted
out, so that every instant is in universal time.
-/

namespace Calendar

/-- A mark between the groups of digits of a date. -/
def isShapeMark (character : Char) : Bool :=
  character == '/' || character == '-'

/-- A digit, a mark, one digit or two, a mark and a digit stand at the front. -/
def startsDateShape : List Char → Bool
  | first :: mark :: second :: third :: rest =>
      Text.isDecimalDigit first && isShapeMark mark && Text.isDecimalDigit second &&
        ((isShapeMark third && (rest.head?.map Text.isDecimalDigit).getD false) ||
          (Text.isDecimalDigit third &&
            match rest with
            | next :: last :: _ => isShapeMark next && Text.isDecimalDigit last
            | _ => false))
  | _ => false

/-- The shape of a date occurs in a text. -/
def hasDateShape : List Char → Bool
  | [] => false
  | character :: rest => startsDateShape (character :: rest) || hasDateShape rest

/-- The instants that are counted in nanoseconds. -/
def Instant.isFine (instant : Instant) : Bool :=
  -(Nat.pow 2 63 : Int) < instant.nanoseconds && instant.nanoseconds < Nat.pow 2 63

/-- The instant of a stamp; one that is more precise than a microsecond has to be in range. -/
def Stamp.instant? (stamp : Stamp) : Option Instant :=
  let instant := stamp.moment.instant
  if stamp.fine && !instant.isFine then none else some instant

/-- The instant that a text stands for. -/
def Instant.ofText? (characters : List Char) : Option Instant :=
  if hasDateShape characters then
    match Stamp.ofYearFirst? characters with
    | some stamp => stamp.instant?
    | none => (Stamp.ofPhrase? characters).bind Stamp.instant?
  else none

end Calendar

/-- The instant that a cell stands for. -/
def Cell.instant? : Cell → Option Calendar.Instant
  | .text value => Calendar.Instant.ofText? (Text.trimBoth value.toList)
  | .date value => some (Calendar.Instant.ofDate value .midnight)
  | .moment value => some value.instant
  | _ => none

end Tabular
