import Tabular.Journal.Level
import Tabular.Pattern.Matcher
import Tabular.Pattern.Reader

namespace Tabular.Journal

/-!
# Formats of lines

A format is a text with fields such as `%(levelname)-7s`: the name of a part of a record in
parentheses, flags, a least width, a precision that cuts texts off, and a letter that tells numbers
from texts. Two percent signs stand for one. A text without any field is no format.
-/

/-- What is written down. -/
structure Record where
  time : String := ""
  logger : String
  level : Int
  message : String

/-- A part of a record. -/
inductive RecordField where
  | time
  | logger
  | levelName
  | levelNumber
  | message
deriving DecidableEq

/-- The part of a record with a name in formats. -/
def RecordField.ofName? (name : String) : Option RecordField :=
  if name = "asctime" then some .time
  else if name = "name" then some .logger
  else if name = "levelname" then some .levelName
  else if name = "levelno" then some .levelNumber
  else if name = "message" ∨ name = "msg" then some .message
  else none

/-- How a part of a record is laid out. -/
structure Layout where
  leftAligned : Bool := false
  zeroFilled : Bool := false
  signed : Bool := false
  spaced : Bool := false
  width : Nat := 0
  precision : Option Nat := none
  /-- The part is laid out as a number. -/
  numeric : Bool := false
deriving DecidableEq

/-- A piece of a format. -/
inductive FormatPiece where
  | plain (text : List Char)
  | field (field : RecordField) (layout : Layout)
deriving DecidableEq

namespace Layout

/-- Characters filled up to the width. -/
def pad (layout : Layout) (characters : List Char) : List Char :=
  let filling := List.replicate (layout.width - characters.length) ' '
  if layout.leftAligned then characters ++ filling else filling ++ characters

/-- A text, cut off and filled up. -/
def text (layout : Layout) (written : String) : List Char :=
  layout.pad
    (match layout.precision with
    | some precision => written.toList.take precision
    | none => written.toList)

/-- The sign of a number. -/
def sign (layout : Layout) (number : Int) : List Char :=
  if number < 0 then ['-']
  else if layout.signed then ['+']
  else if layout.spaced then [' ']
  else []

/-- A number with its sign, filled up. -/
def number (layout : Layout) (value : Int) : List Char :=
  let digits := Decimal.padFront (layout.precision.getD 0) (Decimal.digits value.natAbs)
  let sign := layout.sign value
  if layout.zeroFilled && !layout.leftAligned then
    sign ++ Decimal.padFront (layout.width - sign.length) digits
  else layout.pad (sign ++ digits)

end Layout

/-- A part of a record, laid out. -/
def RecordField.written (field : RecordField) (layout : Layout) (record : Record) : List Char :=
  match field with
  | .time => layout.text record.time
  | .logger => layout.text record.logger
  | .levelName => layout.text (Journal.levelName record.level)
  | .levelNumber =>
      if layout.numeric then layout.number record.level
      else layout.text (Decimal.ofInt record.level)
  | .message => layout.text record.message

/-- A format. -/
abbrev LineFormat := List FormatPiece

namespace LineFormat

/-- The line of a record. -/
def written (format : LineFormat) (record : Record) : String :=
  String.ofList
    (format.flatMap fun piece =>
      match piece with
      | .plain text => text
      | .field field layout => field.written layout record)

/-! ## Reading formats -/

/-- The flags at the front, and what follows them. -/
def takeFlags (layout : Layout) : List Char → Layout × List Char
  | '-' :: rest => takeFlags { layout with leftAligned := true } rest
  | '0' :: rest => takeFlags { layout with zeroFilled := true } rest
  | '+' :: rest => takeFlags { layout with signed := true } rest
  | ' ' :: rest => takeFlags { layout with spaced := true } rest
  | '#' :: rest => takeFlags layout rest
  | rest => (layout, rest)

/-- The precision at the front, and what follows it. -/
def takePrecision (layout : Layout) : List Char → Layout × List Char
  | '.' :: rest =>
      let (digits, rest) := Decimal.spanDigits rest
      ({ layout with precision := some (Decimal.digitsValue digits) }, rest)
  | rest => (layout, rest)

/-- The letters that lay a part out as a number. -/
def isNumeric (letter : Char) : Bool :=
  letter == 'd' || letter == 'i' || letter == 'u'

/-- The layout at the front, up to its letter, and what follows it. -/
def takeLayout (characters : List Char) : Option (Layout × List Char) :=
  let (layout, rest) := takeFlags {} characters
  let (digits, rest) := Decimal.spanDigits rest
  let (layout, rest) := takePrecision { layout with width := Decimal.digitsValue digits } rest
  match rest with
  | letter :: rest => some ({ layout with numeric := isNumeric letter }, rest)
  | [] => none

/-- A field after its opening parenthesis, and what follows it. -/
def takeField (characters : List Char) : Option (FormatPiece × List Char) :=
  let name := characters.takeWhile fun character => character != ')'
  match RecordField.ofName? (String.ofList name), characters.drop name.length with
  | some field, ')' :: rest =>
      (takeLayout rest).map fun (layout, rest) => (.field field layout, rest)
  | _, _ => none

/-- The pieces of a format; `fuel` bounds their number. -/
def pieces : Nat → List Char → LineFormat
  | 0, _ => []
  | _ + 1, [] => []
  | fuel + 1, '%' :: '%' :: rest => .plain ['%'] :: pieces fuel rest
  | fuel + 1, '%' :: '(' :: rest =>
      match takeField rest with
      | some (piece, rest) => piece :: pieces fuel rest
      | none => .plain ['%', '('] :: pieces fuel rest
  | fuel + 1, character :: rest => .plain [character] :: pieces fuel rest

/-- What a field looks like, written as a pattern. -/
def fieldPattern : String :=
  "%\\(\\w+\\)[#0+ -]*(\\*|\\d+)?(\\.(\\*|\\d+))?[diouxefgcrsa%]"

/-- The text has a field. -/
def hasField (written : String) : Bool :=
  match Pattern.read { ignoreCase := true } fieldPattern with
  | .ok pattern => pattern.search written
  | .error _ => false

/-- The format that a text writes; none when it has no field. -/
def read? (written : String) : Option LineFormat :=
  if hasField written then some (pieces written.length written.toList) else none

/-- The format that is used when none is given. -/
def default : String :=
  "%(asctime)s %(levelname)-7s [%(name)s] %(message)s"

end LineFormat

end Tabular.Journal
