import Tabular.Calendar.DayParts
import Tabular.Calendar.Word
import Tabular.Calendar.YearFirst

namespace Tabular.Calendar

/-!
# Dates in free form

A date in free form is read word by word. Numbers give the parts of the day or of the clock, by
their length and by the marks around them; month names, halves of the day, zone names and offsets
are known; a few small words and marks may stand between. Any other word makes the text no date.
-/

/-- What the words so far have told. -/
structure Phrase where
  parts : DayParts := {}
  hour : Option Nat := none
  minute : Option Nat := none
  second : Option Nat := none
  nanosecond : Option Nat := none
  /-- The second is written more precisely than to the microsecond. -/
  fine : Bool := false
  zoneName : Option (List Char) := none
  zoneOffset : Option Int := none
  /-- The next sign counts the hours that universal time is ahead. -/
  reversedSign : Bool := false

/-- A word in lower case. -/
def lowered (word : List Char) : String :=
  String.ofList (word.map Char.toLower)

/-- Words that may stand between the parts of a date. -/
def isFiller (word : List Char) : Bool :=
  [" ", ".", ",", ";", "-", "/", "'", "at", "on", "and", "ad", "m", "t", "of", "st", "nd", "rd",
    "th"].contains (lowered word)

/-- The place of a name in a list of names with several spellings each. -/
def placeOfName? (names : List (List String)) (word : List Char) : Option Nat :=
  names.findIdx? fun spellings => spellings.contains (lowered word)

/-- A name of a day of the week. -/
def isWeekday (word : List Char) : Bool :=
  (placeOfName?
    [["mon", "monday"], ["tue", "tuesday"], ["wed", "wednesday"], ["thu", "thursday"],
      ["fri", "friday"], ["sat", "saturday"], ["sun", "sunday"]] word).isSome

/-- The number of the month with a name. -/
def monthNamed? (word : List Char) : Option Nat :=
  (placeOfName?
    [["jan", "january"], ["feb", "february"], ["mar", "march"], ["apr", "april"], ["may"],
      ["jun", "june"], ["jul", "july"], ["aug", "august"], ["sep", "sept", "september"],
      ["oct", "october"], ["nov", "november"], ["dec", "december"]] word).map (· + 1)

/-- The unit of a clock number: 0 for hours, 1 for minutes, 2 for seconds. -/
def clockUnit? (word : List Char) : Option Nat :=
  placeOfName?
    [["h", "hour", "hours"], ["m", "minute", "minutes"], ["s", "second", "seconds"]] word

/-- The half of the day that a word names; true for the second one. -/
def dayHalf? (word : List Char) : Option Bool :=
  (placeOfName? [["am", "a"], ["pm", "p"]] word).map (· == 1)

/-- An hour of the named half of the day on a clock of twelve hours. -/
def hourInHalf (hour : Nat) (afternoon : Bool) : Nat :=
  if afternoon && hour < 12 then hour + 12
  else if !afternoon && hour = 12 then 0
  else hour

/-- A name of universal time. -/
def isUniversalName (word : List Char) : Bool :=
  ["utc", "gmt", "z"].contains (lowered word)

/-- The word can be the name of a zone, after a clock time and before any other zone. -/
def mayBeZone (phrase : Phrase) (offset : Option Int) (word : List Char) : Bool :=
  phrase.hour.isSome && phrase.zoneName.isNone && offset.isNone && word.length ≤ 5 &&
    (word.all Char.isUpper || word = ['z'])

/-- A number written with digits only. -/
def wholeNumber? (word : List Char) : Option Nat :=
  if word.isEmpty || !word.all Char.isDigit then none else some (Decimal.digitsValue word)

/-- A number, with its digits after the point. -/
structure NumberWord where
  whole : Nat
  fraction : List Char

/-- The number that a word is. -/
def numberWord? (word : List Char) : Option NumberWord :=
  let digits := word.takeWhile Char.isDigit
  match word.dropWhile Char.isDigit with
  | [] => (wholeNumber? digits).map fun whole => ⟨whole, []⟩
  | '.' :: fraction => do
      let whole ← wholeNumber? digits
      let _ ← wholeNumber? fraction
      some ⟨whole, fraction⟩
  | _ => none

/-- The number has a fraction that is not zero. -/
def NumberWord.isFractional (number : NumberWord) : Bool :=
  number.fraction.any (· != '0')

/-- Sixtieths of the fraction, rounded down. -/
def NumberWord.sixtieths (number : NumberWord) : Nat :=
  60 * Decimal.digitsValue number.fraction / Nat.pow 10 number.fraction.length

/-- The phrase with seconds and their fraction. -/
def Phrase.withSeconds? (phrase : Phrase) (word : List Char) : Option Phrase := do
  let number ← numberWord? word
  some
    { phrase with
      second := some number.whole
      nanosecond :=
        some (Decimal.digitsValue ((number.fraction ++ List.replicate 9 '0').take 9))
      fine := phrase.fine || 6 < number.fraction.length }

/-- The phrase with minutes, whose fraction gives seconds. -/
def Phrase.withMinutes (phrase : Phrase) (number : NumberWord) : Phrase :=
  { phrase with
    minute := some number.whole
    second := if number.isFractional then some number.sixtieths else none }

/-- The phrase with a number in the given unit of the clock. -/
def Phrase.withUnit? (phrase : Phrase) (word : List Char) (clockUnit : Nat) : Option Phrase := do
  let number ← numberWord? word
  match clockUnit with
  | 0 =>
      some
        { phrase with
          hour := some number.whole
          minute := if number.isFractional then some number.sixtieths else phrase.minute }
  | 1 => some (phrase.withMinutes number)
  | 2 => phrase.withSeconds? word
  | _ => some phrase

/-- The phrase with one more part of the day. -/
def Phrase.withParts? (phrase : Phrase) (parts : Option DayParts) : Option Phrase :=
  parts.map fun parts => { phrase with parts }

/-- The words of a text, by place. -/
abbrev Words := Array (List Char)

/-- The word at a place is the given one. -/
def Words.is (words : Words) (place : Nat) (expected : String) : Bool :=
  words[place]? == some expected.toList

/-- The clock unit of the word at a place. -/
def Words.clockUnitAt? (words : Words) (place : Nat) : Option Nat :=
  words[place]?.bind clockUnit?

/--
The unit of the number at a place and the place after it: a unit that follows counts, else the unit
after the one that came before.
-/
def Words.unitOfNumber? (words : Words) (place : Nat) : Option (Nat × Nat) :=
  match words.clockUnitAt? (place + 1) with
  | some clockUnit => some (clockUnit, place + 2)
  | none =>
      let further := if words.is (place + 1) " " then words.clockUnitAt? (place + 2) else none
      match further with
      | some clockUnit => some (clockUnit, place + 3)
      | none =>
          let before := if 0 < place then words.clockUnitAt? (place - 1) else none
          match before with
          | some clockUnit => some (clockUnit + 1, place + 1)
          | none =>
              if 1 < place && place + 1 = words.size && words.is (place - 1) " " then
                (words.clockUnitAt? (place - 2)).map fun clockUnit => (clockUnit + 1, place + 1)
              else none

/-- The number before a mark starts a date of two or three members. -/
def Phrase.readMembers? (phrase : Phrase) (words : Words) (place : Nat) (mark : List Char) :
    Option (Phrase × Nat) := do
  let word ← words[place]?
  let parts ← phrase.parts.addWritten? word .unknown
  match words[place + 2]? with
  | none => some ({ phrase with parts }, place + 2)
  | some member =>
      if isFiller member then some ({ phrase with parts }, place + 2)
      else
        let parts ←
          if member.all Char.isDigit then parts.addWritten? member .unknown
          else (monthNamed? member).bind fun month => parts.add? month .month
        if words[place + 3]? = some mark then
          let last ← words[place + 4]?
          let parts ←
            match monthNamed? last with
            | some month => parts.add? month .month
            | none => parts.addWritten? last .unknown
          some ({ phrase with parts }, place + 5)
        else some ({ phrase with parts }, place + 3)

/-- A number of six digits, or of six digits before a point: a date or a clock time run together. -/
def Phrase.readSixDigits? (phrase : Phrase) (word : List Char) : Option Phrase :=
  if phrase.parts.numbers.isEmpty && !word.contains '.' then do
    let parts ← phrase.parts.addWritten? (word.take 2) .unknown
    let parts ← parts.addWritten? ((word.drop 2).take 2) .unknown
    phrase.withParts? (parts.addWritten? (word.drop 4) .unknown)
  else do
    let hour ← wholeNumber? (word.take 2)
    let minute ← wholeNumber? ((word.drop 2).take 2)
    ({ phrase with hour := some hour, minute := some minute } : Phrase).withSeconds? (word.drop 4)

/-- A number of eight digits or more: a date run together, and perhaps a clock time after it. -/
def Phrase.readEightDigits? (phrase : Phrase) (word : List Char) : Option Phrase := do
  let parts ← phrase.parts.addWritten? (word.take 4) .year
  let parts ← parts.addWritten? ((word.drop 4).take 2) .unknown
  let parts ← parts.addWritten? ((word.drop 6).take 2) .unknown
  let phrase := { phrase with parts }
  if 8 < word.length then
    let hour ← wholeNumber? ((word.drop 8).take 2)
    let minute ← wholeNumber? ((word.drop 10).take 2)
    let phrase := { phrase with hour := some hour, minute := some minute }
    if 12 < word.length then
      let second ← wholeNumber? (word.drop 12)
      some { phrase with second := some second }
    else some phrase
  else some phrase

/-- A clock time with colons, whose hour stands at the place. -/
def Phrase.readClock? (phrase : Phrase) (words : Words) (place : Nat) (hour : Nat) :
    Option (Phrase × Nat) := do
  let minutes ← words[place + 2]?.bind numberWord?
  let phrase := ({ phrase with hour := some hour } : Phrase).withMinutes minutes
  match words[place + 4]? with
  | some seconds =>
      if words.is (place + 3) ":" then
        let phrase ← phrase.withSeconds? seconds
        some (phrase, place + 5)
      else some (phrase, place + 3)
  | none => some (phrase, place + 3)

/-- What a number at a place tells, and the place to go on at. -/
def Phrase.readNumber? (phrase : Phrase) (words : Words) (place : Nat) (word : List Char)
    (number : NumberWord) : Option (Phrase × Nat) :=
  let next := words[place + 1]?
  let nextIsUnit := (next.bind clockUnit?).isSome
  if phrase.parts.numbers.length = 3 && (word.length = 2 || word.length = 4) &&
      phrase.hour.isNone && !words.is (place + 1) ":" && !nextIsUnit then do
    let hour ← wholeNumber? (word.take 2)
    let minute ←
      if word.length = 4 then (wholeNumber? (word.drop 2)).map some else some phrase.minute
    some ({ phrase with hour := some hour, minute }, place + 1)
  else if word.length = 6 || (6 < word.length && word.findIdx? (· == '.') = some 6) then do
    some (← phrase.readSixDigits? word, place + 1)
  else if word.length = 8 || word.length = 12 || word.length = 14 then do
    some (← phrase.readEightDigits? word, place + 1)
  else
    match words.unitOfNumber? place with
    | some (clockUnit, after) => do some (← phrase.withUnit? word clockUnit, after)
    | none =>
        if words.is (place + 1) ":" && (words[place + 2]?).isSome then
          phrase.readClock? words place number.whole
        else
          match next with
          | none => do
              some
                (← phrase.withParts? (phrase.parts.addValue? number.whole number.isFractional),
                  place + 1)
          | some mark =>
              if mark = ['-'] || mark = ['/'] || mark = ['.'] then
                phrase.readMembers? words place mark
              else if isFiller mark then
                match words[place + 2]?.bind dayHalf? with
                | some half =>
                    some
                      ({ phrase with hour := some (hourInHalf number.whole half) }, place + 3)
                | none => do
                    some
                      (← phrase.withParts?
                        (phrase.parts.addValue? number.whole number.isFractional),
                        place + 2)
              else
                match dayHalf? mark with
                | some half =>
                    if number.whole < 24 then
                      some
                        ({ phrase with hour := some (hourInHalf number.whole half) }, place + 2)
                    else none
                | none =>
                    if phrase.parts.couldBeDay number.whole number.isFractional then do
                      some
                        (← phrase.withParts?
                          (phrase.parts.addValue? number.whole number.isFractional),
                          place + 1)
                    else none

/-- What a month name at a place tells, and the place to go on at. -/
def Phrase.readMonth? (phrase : Phrase) (words : Words) (place : Nat) (month : Nat) :
    Option (Phrase × Nat) := do
  let parts ← phrase.parts.add? month .month
  match words[place + 1]? with
  | none => some ({ phrase with parts }, place + 1)
  | some mark =>
      if mark = ['-'] || mark = ['/'] then
        let member ← words[place + 2]?
        let parts ← parts.addWritten? member .unknown
        if words[place + 3]? = some mark then
          let last ← words[place + 4]?
          some ({ phrase with parts := ← parts.addWritten? last .unknown }, place + 5)
        else some ({ phrase with parts }, place + 3)
      else if words.is (place + 1) " " && words.is (place + 3) " " &&
          (words[place + 2]?.map lowered) = some "of" && (words[place + 4]?).isSome then
        match words[place + 4]?.bind wholeNumber? with
        | some number =>
            let year := toString (parts.yearOf number)
            some ({ phrase with parts := ← parts.addWritten? year.toList .year }, place + 5)
        | none => some ({ phrase with parts }, place + 5)
      else some ({ phrase with parts }, place + 1)

/-- What the name of a zone at a place tells. A sign after it counts the other way round. -/
def Phrase.readZone (phrase : Phrase) (words : Words) (place : Nat) (word : List Char) : Phrase :=
  if words.is (place + 1) "+" || words.is (place + 1) "-" then
    { phrase with
      zoneName := if isUniversalName word then none else some word
      zoneOffset := none
      reversedSign := true }
  else
    { phrase with
      zoneName := some word
      zoneOffset := if word = ['z'] then some 0 else none }

/-- The hours and minutes of an offset at a place, whether both are written, and where it ends. -/
def readPhraseOffset? (words : Words) (place : Nat) : Option (Nat × Nat × Bool × Nat) := do
  let word ← words[place]?
  if word.length = 4 then
    some
      (← wholeNumber? (word.take 2), ← wholeNumber? (word.drop 2), true, place + 1)
  else if words.is (place + 1) ":" then
    let minutes ← words[place + 2]?
    some (← wholeNumber? word, ← wholeNumber? minutes, true, place + 3)
  else if word.length ≤ 2 then
    some (← wholeNumber? word, 0, false, place + 1)
  else none

/--
What an offset after the sign at a place tells. After a name of universal time hours alone count the
other way round.
-/
def Phrase.readOffset? (phrase : Phrase) (words : Words) (place : Nat) (ahead : Bool) :
    Option (Phrase × Nat) := do
  let (hours, minutes, full, after) ← readPhraseOffset? words (place + 1)
  let kept := !phrase.reversedSign || (full && phrase.zoneName.isNone)
  let seconds : Int := hours * 3600 + minutes * 60
  let phrase :=
    { phrase with zoneOffset := some (if ahead == kept then seconds else -seconds) }
  let named :=
    (words[after]?.map isFiller) = some true && words.is (after + 1) "(" &&
      words.is (after + 3) ")"
  match words[after + 2]? with
  | some word =>
      if named && 3 ≤ word.length && mayBeZone phrase none word then
        some ({ phrase with zoneName := some word }, after + 4)
      else some (phrase, after)
  | none => some (phrase, after)

/-- What the word at a place tells, and the place to go on at. -/
def Phrase.readWord? (phrase : Phrase) (words : Words) (place : Nat) (word : List Char) :
    Option (Phrase × Nat) :=
  match numberWord? word with
  | some number => phrase.readNumber? words place word number
  | none =>
      if isWeekday word then some (phrase, place + 1)
      else
        match monthNamed? word, dayHalf? word with
        | some month, _ => phrase.readMonth? words place month
        | none, some half =>
            match phrase.hour with
            | some hour =>
                if hour ≤ 12 then
                  some ({ phrase with hour := some (hourInHalf hour half) }, place + 1)
                else none
            | none => none
        | none, none =>
            if mayBeZone phrase phrase.zoneOffset word then
              some (phrase.readZone words place word, place + 1)
            else if phrase.hour.isSome && (word = ['+'] || word = ['-']) then
              phrase.readOffset? words place (word == ['+'])
            else if isFiller word then some (phrase, place + 1)
            else none

/-- The phrase of the words from a place on; `fuel` bounds the number of words. -/
def Phrase.readFrom? (words : Words) : Nat → Nat → Phrase → Option Phrase
  | 0, _, phrase => some phrase
  | fuel + 1, place, phrase =>
      match words[place]? with
      | none => some phrase
      | some word => do
          let (phrase, next) ← phrase.readWord? words place word
          readFrom? words fuel next phrase

/-- The offset that a phrase names; no zone at all leaves it open. -/
def Phrase.offset? (phrase : Phrase) : Option (Option Int) :=
  match phrase.zoneName with
  | some name =>
      if isUniversalName name then some (some 0)
      else
        match phrase.zoneOffset with
        | some seconds => if seconds.natAbs < 86400 then some (some seconds) else none
        | none => none
  | none =>
      match phrase.zoneOffset with
      | some seconds => if seconds.natAbs < 86400 then some (some seconds) else none
      | none => some none

/-- The moment that a phrase tells; parts that it does not tell are the first ones. -/
def Phrase.stamp? (phrase : Phrase) : Option Stamp := do
  let told ← phrase.parts.told?
  let year := (told.year.map phrase.parts.yearOf).getD 1
  let date : Date := { year, month := told.month.getD 1, day := told.day.getD 1 }
  let clock : Clock :=
    { hour := phrase.hour.getD 0
      minute := phrase.minute.getD 0
      second := phrase.second.getD 0
      nanosecond := phrase.nanosecond.getD 0 }
  let offset ← phrase.offset?
  if date.isReal && 1 ≤ year && year ≤ 9999 && clock.isReal then
    some { moment := { date, clock, offset }, fine := phrase.fine }
  else none

/-- The moment that a text in free form tells. -/
def Stamp.ofPhrase? (characters : List Char) : Option Stamp := do
  let words := (wordsOf characters).toArray
  let phrase ← Phrase.readFrom? words words.size 0 {}
  phrase.stamp?

end Tabular.Calendar
