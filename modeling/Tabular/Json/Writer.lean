import Tabular.Json.Basic
import Tabular.Text.Unit

namespace Tabular

/-!
# Writing documents

The canonical text of a document: members in the code-point order of their keys, a blank after each
comma and colon, and every character outside ASCII escaped, above the basic plane as a pair of
surrogates. Documents that differ have different texts.
-/

namespace Json

/-- The float format of documents, which spells the numbers that are not finite as words. -/
def floatFormat : FloatFormat :=
  { FloatFormat.plain with
    nanText := "NaN", infinityText := "Infinity", minusInfinityText := "-Infinity" }

/-- The lower-case hexadecimal digit of a value below sixteen. -/
def hexDigit (value : Nat) : Char :=
  if value < 10 then Char.ofNat (48 + value) else Char.ofNat (87 + value)

/-- A sixteen-bit unit as an escape of four hexadecimal digits. -/
def escapedUnit (unit : Nat) : List Char :=
  ['\\', 'u', hexDigit (unit / 4096 % 16), hexDigit (unit / 256 % 16), hexDigit (unit / 16 % 16),
    hexDigit (unit % 16)]

/-- A code point as it stands in a written text. -/
def escapedPoint (point : Nat) : List Char :=
  if point = '"'.toNat then ['\\', '"']
  else if point = '\\'.toNat then ['\\', '\\']
  else if point = '\n'.toNat then ['\\', 'n']
  else if point = '\r'.toNat then ['\\', 'r']
  else if point = '\t'.toNat then ['\\', 't']
  else if point = 8 then ['\\', 'b']
  else if point = 12 then ['\\', 'f']
  else if 32 ≤ point ∧ point < 127 then [Char.ofNat point]
  else (Text.pointUnits point).flatMap escapedUnit

/-- A character as it stands in a written text. -/
def escapedChar (character : Char) : List Char :=
  escapedPoint character.toNat

/-- A written text with its quotes. -/
def quoted (text : String) : List Char :=
  '"' :: text.toList.flatMap escapedChar ++ ['"']

/-- Members in the order of their keys. -/
def sortMembers {α : Type} (members : List (String × α)) : List (String × α) :=
  members.mergeSort fun left right => !(right.1 < left.1)

/-- Pieces with a comma and a blank between them. -/
def commaSeparated : List (List Char) → List Char
  | [] => []
  | [piece] => piece
  | piece :: pieces => piece ++ ',' :: ' ' :: commaSeparated pieces

mutual

/-- The canonical text of a document. -/
def characters : Json → List Char
  | .null => "null".toList
  | .bool value => (if value then "true" else "false").toList
  | .int value => (Decimal.ofInt value).toList
  | .float value => (value.writtenAs floatFormat).toList
  | .text value => quoted value
  | .array elements => '[' :: commaSeparated (elementTexts elements) ++ [']']
  | .object members =>
      '{' :: commaSeparated ((sortMembers (memberTexts members)).map Prod.snd) ++ ['}']

/-- The texts of the elements of an array. -/
def elementTexts : List Json → List (List Char)
  | [] => []
  | element :: rest => characters element :: elementTexts rest

/-- The keys of the members of an object, each with the text of its member. -/
def memberTexts : List (String × Json) → List (String × List Char)
  | [] => []
  | (key, value) :: rest =>
      (key, quoted key ++ ':' :: ' ' :: characters value) :: memberTexts rest

end

/-- The canonical text of a document. -/
def written (document : Json) : String :=
  String.ofList document.characters

/-! ## Documents as texts and cells -/

/-- The text of a document: a text itself, and otherwise what is displayed or written for it. -/
def asText (document : Json) : String :=
  match document.toCell? with
  | some cell => cell.display
  | none => document.written

/-- The cell of a document; a list or an object is told by its text. -/
def asCell (document : Json) : Cell :=
  document.toCell?.getD (.text document.asText)

end Json

end Tabular
