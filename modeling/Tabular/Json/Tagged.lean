import Tabular.Json.Basic

namespace Tabular

/-!
# Tagged documents

Values that documents do not have are written as objects with a single member, whose key is a tag
that tells what the text under it stands for: numbers that are not finite, dates, and moments.
-/

namespace Binary64

/-- The number that a word names. -/
def ofWord : String → Binary64
  | "inf" => .infinite false
  | "-inf" => .infinite true
  | _ => .nan

/-- The number as a document; one that is not finite is tagged. -/
def tagged (value : Binary64) : Json :=
  match value with
  | .nan => .object [("$float", .text "nan")]
  | .infinite negative => .object [("$float", .text (if negative then "-inf" else "inf"))]
  | value => .float value

end Binary64

namespace Json

/-- A number that is not finite is tagged. -/
def tagNumber : Json → Json
  | .float value => value.tagged
  | part => part

/-- A tagged number is a number. -/
def untagNumber : Json → Json
  | .object [("$float", .text word)] => .float (.ofWord word)
  | part => part

/-- The cell of a document in which dates and moments are tagged. -/
def toTaggedCell? : Json → Option Cell
  | .object [("$date", .text written)] => (Calendar.Date.read? written).map .date
  | .object [("$datetime", .text written)] => (Calendar.Moment.read? written).map .moment
  | document => document.toCell?

/-- The cell of a document in which dates and moments are tagged; nothing when it is none. -/
def toTaggedCell (document : Json) : Cell :=
  document.toTaggedCell?.getD .null

end Json

/-- The cell as a document; dates and moments are tagged. -/
def Cell.tagged : Cell → Json
  | .date value => .object [("$date", .text (String.ofList value.written))]
  | .moment value => .object [("$datetime", .text (value.written 'T'))]
  | cell => cell.toJson

/-- The instant as a tagged moment. -/
def Calendar.Instant.tagged (instant : Calendar.Instant) : Json :=
  .object [("$datetime", .text instant.written)]

end Tabular
