import Tabular.Calendar.Date

namespace Tabular.Calendar

/-!
# Which number is the year

A date in free form gives up to three numbers for year, month and day, in an order that has to be
found out. A number of more than two digits is the year and a month name is the month; what is left
is told by size: numbers above 31 are years, numbers above 12 days, and otherwise the month comes
first and the year last.
-/

/-- The role that a number is known to have. -/
inductive Role where
  | unknown
  | year
  | month
deriving DecidableEq

/-- The numbers of a date so far, in order, and the places of those whose role is known. -/
structure DayParts where
  numbers : List Nat := []
  yearAt : Option Nat := none
  monthAt : Option Nat := none
  /-- The year is written in full. -/
  fullYear : Bool := false

namespace DayParts

/-- One more number; no role is given twice. -/
def add? (parts : DayParts) (number : Nat) (role : Role) : Option DayParts :=
  let place := parts.numbers.length
  let numbers := parts.numbers ++ [number]
  match role with
  | .unknown => some { parts with numbers }
  | .year => if parts.yearAt.isSome then none else some { parts with numbers, yearAt := some place }
  | .month =>
      if parts.monthAt.isSome then none else some { parts with numbers, monthAt := some place }

/-- One more written number; more than two digits make it the year. -/
def addWritten? (parts : DayParts) (word : List Char) (role : Role) : Option DayParts :=
  if word.isEmpty || !word.all Char.isDigit then none
  else
    let number := Decimal.digitsValue word
    if 2 < word.length then
      if role = .month then none
      else ({ parts with fullYear := true } : DayParts).add? number .year
    else parts.add? number role

/-- One more number that may have a fraction, which is dropped; above one hundred it is the year. -/
def addValue? (parts : DayParts) (whole : Nat) (fractional : Bool) : Option DayParts :=
  if 100 < whole || (whole = 100 && fractional) then
    ({ parts with fullYear := true } : DayParts).add? whole .year
  else parts.add? whole .unknown

/-- The number could be the day beside what is known already. -/
def couldBeDay (parts : DayParts) (whole : Nat) (fractional : Bool) : Bool :=
  let within (bound : Nat) := 1 ≤ whole && (whole < bound || (whole = bound && !fractional))
  match parts.monthAt.bind fun place => parts.numbers[place]? with
  | none => within 31
  | some month =>
      match parts.yearAt.bind fun place => parts.numbers[place]? with
      | none => within (daysInMonth 2000 month)
      | some year => within (daysInMonth year month)

/-- Year, month and day, as far as they are told. -/
structure Told where
  year : Option Nat := none
  month : Option Nat := none
  day : Option Nat := none

/-- Three numbers with their roles. -/
def three (year month day : Nat) : Told :=
  { year := some year, month := some month, day := some day }

/-- The third of three places. -/
def otherPlace (first second : Nat) : Nat :=
  3 - first - second

/-- The roles of all numbers; none when there are too many. -/
def told? (parts : DayParts) : Option Told :=
  let at? (place : Nat) := parts.numbers[place]?
  match parts.numbers, parts.yearAt, parts.monthAt with
  | [_], some place, none => some { year := at? place }
  | [_], none, some place => some { month := at? place }
  | [_, _], some yearPlace, some monthPlace =>
      some { year := at? yearPlace, month := at? monthPlace }
  | [_, _, _], some yearPlace, some monthPlace =>
      some
        { year := at? yearPlace
          month := at? monthPlace
          day := at? (otherPlace yearPlace monthPlace) }
  | [], _, _ => some {}
  | [number], _, _ => some (if 31 < number then { year := some number } else { day := some number })
  | [first, second], _, some place =>
      let (month, other) := if place = 0 then (first, second) else (second, first)
      some
        (if 31 < other then { year := some other, month := some month }
        else { month := some month, day := some other })
  | [first, second], _, none =>
      some
        (if 31 < first then { year := some first, month := some second }
        else if 31 < second then { year := some second, month := some first }
        else { month := some first, day := some second })
  | [first, second, third], yearAt, monthAt =>
      some
        (match monthAt with
        | some 0 =>
            if 31 < second then three second first third else three third first second
        | some 1 =>
            if 31 < first then three first second third else three third second first
        | some _ =>
            if 31 < second then three second third first else three first third second
        | none =>
            if 31 < first || yearAt = some 0 then three first second third
            else if 12 < first then three third second first
            else three third first second)
  | _, _, _ => none

/-- Years of two digits below this one belong to the century that starts in 2000. -/
def centuryTurn : Nat := 76

/-- The year that a number stands for; two digits stand for a year of this century or the last. -/
def yearOf (parts : DayParts) (number : Nat) : Nat :=
  if parts.fullYear || 100 ≤ number then number
  else if number < centuryTurn then 2000 + number
  else 1900 + number

end DayParts

end Tabular.Calendar
