import Tabular.Number.Written

namespace Tabular.Calendar

/-!
# Dates, clock times and instants

Dates of the proleptic Gregorian calendar, clock times to the nanosecond, and instants on a timeline
without a time zone. Dates are tied to the timeline by counting days; the day count is the one place
where the shape of the calendar enters.
-/

/-- A year of 366 days. -/
def isLeapYear (year : Int) : Bool :=
  year % 4 == 0 && (year % 100 != 0 || year % 400 == 0)

/-- The number of days of a month; none for a month that does not exist. -/
def daysInMonth (year : Int) (month : Nat) : Nat :=
  match month with
  | 1 | 3 | 5 | 7 | 8 | 10 | 12 => 31
  | 4 | 6 | 9 | 11 => 30
  | 2 => if isLeapYear year then 29 else 28
  | _ => 0

/-- A day of the calendar. -/
structure Date where
  year : Int
  month : Nat
  day : Nat
deriving DecidableEq, Repr, Inhabited

/-- The month exists and has the day. -/
def Date.isReal (date : Date) : Bool :=
  1 ≤ date.day && date.day ≤ daysInMonth date.year date.month

/--
Days from 1970-01-01 to a date. Years are counted from March, so that the leap day comes last and
the months before it follow the pattern of 153 days in five.
-/
def Date.dayNumber (date : Date) : Int :=
  let year := if date.month ≤ 2 then date.year - 1 else date.year
  let era := year / 400
  let yearOfEra := year % 400
  let monthFromMarch : Int := ((date.month + 9) % 12 : Nat)
  let dayOfYear := (153 * monthFromMarch + 2) / 5 + date.day - 1
  let dayOfEra := yearOfEra * 365 + yearOfEra / 4 - yearOfEra / 100 + dayOfYear
  era * 146097 + dayOfEra - 719468

/-- The date that lies the given number of days after 1970-01-01. -/
def Date.ofDayNumber (number : Int) : Date :=
  let shifted := number + 719468
  let era := shifted / 146097
  let dayOfEra := shifted % 146097
  let yearOfEra :=
    (dayOfEra - dayOfEra / 1460 + dayOfEra / 36524 - dayOfEra / 146096) / 365
  let dayOfYear := dayOfEra - (365 * yearOfEra + yearOfEra / 4 - yearOfEra / 100)
  let monthFromMarch := (5 * dayOfYear + 2) / 153
  let day := dayOfYear - (153 * monthFromMarch + 2) / 5 + 1
  let month := if monthFromMarch < 10 then monthFromMarch + 3 else monthFromMarch - 9
  let year := yearOfEra + era * 400 + (if month ≤ 2 then 1 else 0)
  { year, month := month.toNat, day := day.toNat }

/-- A time of day. -/
structure Clock where
  hour : Nat
  minute : Nat
  second : Nat
  nanosecond : Nat
deriving DecidableEq, Repr, Inhabited

/-- The start of a day. -/
def Clock.midnight : Clock := ⟨0, 0, 0, 0⟩

/-- The hour, minute and second exist. -/
def Clock.isReal (clock : Clock) : Bool :=
  clock.hour < 24 && clock.minute < 60 && clock.second < 60

/-- Nanoseconds since the start of the day. -/
def Clock.nanoseconds (clock : Clock) : Int :=
  ((clock.hour * 60 + clock.minute) * 60 + clock.second : Nat) * 1000000000 + clock.nanosecond

/-- A point of the timeline, in nanoseconds from the start of 1970. -/
structure Instant where
  nanoseconds : Int
deriving DecidableEq, Repr, Inhabited

/-- The nanoseconds of a day. -/
def nanosecondsPerDay : Int := 86400000000000

/-- The instant of a date and a clock time. -/
def Instant.ofDate (date : Date) (clock : Clock) : Instant :=
  ⟨date.dayNumber * nanosecondsPerDay + clock.nanoseconds⟩

/-- The instant earlier by so many seconds. -/
def Instant.minusSeconds (instant : Instant) (seconds : Int) : Instant :=
  ⟨instant.nanoseconds - seconds * 1000000000⟩

/-- The day of an instant. -/
def Instant.date (instant : Instant) : Date :=
  Date.ofDayNumber (instant.nanoseconds / nanosecondsPerDay)

/-- The time of day of an instant. -/
def Instant.clock (instant : Instant) : Clock :=
  let rest := (instant.nanoseconds % nanosecondsPerDay).toNat
  let seconds := rest / 1000000000
  { hour := seconds / 3600
    minute := seconds / 60 % 60
    second := seconds % 60
    nanosecond := rest % 1000000000 }

/-! ## Written forms -/

/-- A number of at least so many digits. -/
def padded (width : Nat) (value : Nat) : List Char :=
  Decimal.padFront width (Decimal.digits value)

/-- A year of at least four digits. -/
def writtenYear (year : Int) : List Char :=
  if year < 0 then '-' :: padded 4 year.natAbs else padded 4 year.natAbs

/-- A date as year, month and day with hyphens. -/
def Date.written (date : Date) : List Char :=
  writtenYear date.year ++ '-' :: padded 2 date.month ++ '-' :: padded 2 date.day

/-- The fraction of a second, six digits or nine, left out when it is zero. -/
def writtenFraction (nanosecond : Nat) : List Char :=
  if nanosecond = 0 then []
  else if nanosecond % 1000 = 0 then '.' :: padded 6 (nanosecond / 1000)
  else '.' :: padded 9 nanosecond

/-- A clock time as hours, minutes and seconds with colons. -/
def Clock.written (clock : Clock) : List Char :=
  padded 2 clock.hour ++ ':' :: padded 2 clock.minute ++ ':' :: padded 2 clock.second ++
    writtenFraction clock.nanosecond

/-- An instant as date and time around a `T`. -/
def Instant.written (instant : Instant) : String :=
  String.ofList (instant.date.written ++ 'T' :: instant.clock.written)

/-- A date and a clock time, with the offset from universal time in seconds when it is known. -/
structure Moment where
  date : Date
  clock : Clock
  offset : Option Int
deriving DecidableEq, Repr, Inhabited

/-- The instant of a moment in universal time; without an offset the clock is taken as it is. -/
def Moment.instant (moment : Moment) : Instant :=
  (Instant.ofDate moment.date moment.clock).minusSeconds (moment.offset.getD 0)

/-- An offset as sign, hours and minutes, and seconds when there are any. -/
def writtenOffset (seconds : Int) : List Char :=
  let size := seconds.natAbs
  (if seconds < 0 then '-' else '+') :: padded 2 (size / 3600) ++
    ':' :: padded 2 (size / 60 % 60) ++
    (if size % 60 = 0 then [] else ':' :: padded 2 (size % 60))

/-- A moment with the given character between date and time. -/
def Moment.written (separator : Char) (moment : Moment) : String :=
  String.ofList
    (moment.date.written ++ separator :: moment.clock.written ++
      (moment.offset.map writtenOffset).getD [])

/-! ## Reading the written forms back -/

/-- A natural number of exactly the given digits, all ASCII. -/
def readDigits? (width : Nat) (characters : List Char) : Option (Nat × List Char) :=
  let digits := characters.take width
  if digits.length = width ∧ digits.all Char.isDigit then
    some (Decimal.digitsValue digits, characters.drop width)
  else none

/-- The given character at the front and what follows it. -/
def expect? (expected : Char) : List Char → Option (List Char)
  | [] => none
  | character :: rest => if character = expected then some rest else none

/-- A written date at the front. -/
def readDate? (characters : List Char) : Option (Date × List Char) := do
  let (year, rest) ← readDigits? 4 characters
  let rest ← expect? '-' rest
  let (month, rest) ← readDigits? 2 rest
  let rest ← expect? '-' rest
  let (day, rest) ← readDigits? 2 rest
  let date : Date := { year, month, day }
  if date.isReal then some (date, rest) else none

/-- A fraction of a second at the front, to the nanosecond; zero when there is none. -/
def readFraction (characters : List Char) : Nat × List Char :=
  match characters with
  | '.' :: rest =>
      let digits := rest.takeWhile Char.isDigit
      (Decimal.digitsValue ((digits ++ List.replicate 9 '0').take 9), rest.dropWhile Char.isDigit)
  | characters => (0, characters)

/-- A written clock time at the front; seconds may be left out. -/
def readClock? (characters : List Char) : Option (Clock × List Char) := do
  let (hour, rest) ← readDigits? 2 characters
  let rest ← expect? ':' rest
  let (minute, rest) ← readDigits? 2 rest
  match rest with
  | ':' :: rest =>
      let (second, rest) ← readDigits? 2 rest
      let (nanosecond, rest) := readFraction rest
      some ({ hour, minute, second, nanosecond }, rest)
  | rest => some ({ hour, minute, second := 0, nanosecond := 0 }, rest)

/-- A written offset at the front; none when the characters end. -/
def readOffset? : List Char → Option (Option Int)
  | [] => some none
  | ['Z'] => some (some 0)
  | sign :: rest =>
      if sign = '+' ∨ sign = '-' then do
        let (clock, rest) ← readClock? rest
        let seconds : Int := (clock.hour * 60 + clock.minute) * 60 + clock.second
        if rest.isEmpty then some (some (if sign = '-' then -seconds else seconds)) else none
      else none

/-- A written moment, with any one character between date and time. -/
def Moment.read? (text : String) : Option Moment := do
  let (date, rest) ← readDate? text.toList
  match rest with
  | [] => some { date, clock := .midnight, offset := none }
  | _ :: rest =>
      let (clock, rest) ← readClock? rest
      let offset ← readOffset? rest
      if clock.isReal then some { date, clock, offset } else none

/-- A written date that is the whole text. -/
def Date.read? (text : String) : Option Date := do
  let (date, rest) ← readDate? text.toList
  if rest.isEmpty then some date else none

end Tabular.Calendar
