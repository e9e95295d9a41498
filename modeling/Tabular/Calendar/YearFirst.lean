import Tabular.Calendar.Date
import Tabular.Text.Blank

namespace Tabular.Calendar

/-!
# Moments written with the year first

A year of four digits, then month and day, which all stand next to each other or are parted by one
and the same mark; then, after a `T` or a blank, hours, minutes, seconds and a fraction, and an
offset from universal time. Parts may be left out from the right. A part of one digit needs a mark
before it.
-/

/-- A moment, and whether it is written more precisely than to the microsecond. -/
structure Stamp where
  moment : Moment
  fine : Bool
deriving DecidableEq

/-- A part of one or two digits; one digit is enough when `short` allows it. -/
def readPart? (short : Bool) : List Char → Option (Nat × List Char)
  | first :: second :: rest =>
      if first.isDigit then
        if second.isDigit then some (Decimal.digitsValue [first, second], rest)
        else if short then some (Decimal.digitsValue [first], second :: rest)
        else none
      else none
  | [first] => if first.isDigit && short then some (Decimal.digitsValue [first], []) else none
  | [] => none

/-- Blanks at the front are skipped. -/
def skipBlanks (characters : List Char) : List Char :=
  characters.dropWhile fun character =>
    character == ' ' || (9 ≤ character.toNat && character.toNat ≤ 13)

/-- The marks that may part year, month and day. -/
def isDateMark (character : Char) : Bool :=
  character == '-' || character == '/' || character == '.' || character == '\\' || character == ' '

/-- The minutes of an offset; none when the characters end. -/
def readOffsetMinutes? : List Char → Option (Nat × List Char)
  | [] => some (0, [])
  | ':' :: rest => readPart? true rest
  | rest => readPart? true rest

/-- An offset up to the end, in seconds. -/
def readStampOffset? (characters : List Char) : Option (Option Int) :=
  match skipBlanks characters with
  | [] => some none
  | 'Z' :: rest => if (skipBlanks rest).isEmpty then some (some 0) else none
  | sign :: rest =>
      if sign = '+' ∨ sign = '-' then do
        let (hours, rest) ← readPart? true rest
        let (minutes, rest) ← readOffsetMinutes? rest
        if hours < 24 ∧ minutes < 60 ∧ (skipBlanks rest).isEmpty then
          let seconds : Int := (hours * 60 + minutes) * 60
          some (some (if sign = '-' then -seconds else seconds))
        else none
      else none

/-- The fraction of a second in nanoseconds, and the number of its digits. -/
def readStampFraction (characters : List Char) : Nat × Nat × List Char :=
  match characters with
  | '.' :: rest =>
      let digits := rest.takeWhile Char.isDigit
      (Decimal.digitsValue ((digits ++ List.replicate 9 '0').take 9), digits.length,
        rest.dropWhile Char.isDigit)
  | characters => (0, 0, characters)

/-- A clock time and an offset up to the end. -/
def readStampClock? (characters : List Char) : Option (Clock × Option Int × Bool) := do
  let (hour, rest) ← readPart? true characters
  let longHour := characters.length = rest.length + 2
  let finish (minute second nanosecond : Nat) (fine : Bool) (rest : List Char) := do
    let offset ← readStampOffset? rest
    let clock : Clock := { hour, minute, second, nanosecond }
    if clock.isReal then some (clock, offset, fine) else none
  let readSeconds (minute : Nat) (short : Bool) (rest : List Char) := do
    let (second, rest) ← readPart? short rest
    let (nanosecond, digits, rest) := readStampFraction rest
    finish minute second nanosecond (6 < digits) rest
  match rest with
  | [] => if longHour then finish 0 0 0 false [] else none
  | ':' :: rest => do
      let (minute, rest) ← readPart? true rest
      match rest with
      | ':' :: rest => readSeconds minute true rest
      | rest => finish minute 0 0 false rest
  | next :: _ =>
      if !longHour then none
      else if next.isDigit then do
        let (minute, rest) ← readPart? false rest
        match rest with
        | digit :: _ =>
            if digit.isDigit then readSeconds minute false rest else finish minute 0 0 false rest
        | [] => finish minute 0 0 false rest
      else finish 0 0 0 false rest

/-- A moment written with the year first, which has to be the whole text. -/
def Stamp.ofYearFirst? (characters : List Char) : Option Stamp := do
  let (year, rest) ← readDigits? 4 (skipBlanks characters)
  let finish (month day : Nat) (rest : List Char) : Option Stamp := do
    let date : Date := { year, month, day }
    if !date.isReal then none
    match rest with
    | [] => some { moment := { date, clock := .midnight, offset := none }, fine := false }
    | separator :: rest =>
        if separator = 'T' ∨ separator = ' ' then
          let (clock, offset, fine) ← readStampClock? rest
          some { moment := { date, clock, offset }, fine }
        else none
  match rest with
  | [] => finish 1 1 []
  | mark :: afterMark =>
      if isDateMark mark then do
        let (month, rest) ← readPart? true afterMark
        match rest with
        | [] => finish month 1 []
        | next :: rest =>
            if next = mark then
              let (day, rest) ← readPart? true rest
              finish month day rest
            else none
      else do
        let (month, rest) ← readPart? false rest
        let (day, rest) ← readPart? false rest
        finish month day rest

end Tabular.Calendar
