import Tabular.Assoc
import Tabular.Json.Writer
import Tabular.Number.Decimal
import Tabular.Schema.Issue
import Tabular.Text.Blank

namespace Tabular.Schema

/-!
# Checking documents

Reading values of a wanted shape out of documents and texts. Texts that write a number or a truth
value stand for it, truth values count as numbers, and whole binary64 numbers as integers. All
issues of a document are collected, in the order of the wanted members.
-/

/-- How a value is read out of a document. -/
abbrev Reader (α : Type) := Json → Checked α

/-! ## Texts that stand for values -/

/-- The characters without the underscores, each of which has to stand between two others. -/
def withoutUnderscores? (characters : List Char) : Option (List Char) :=
  let pieces := Text.piecesAt '_' characters
  if pieces.all fun piece => !piece.isEmpty then some pieces.flatten else none

/-- Digits, with single underscores between them, as a number. -/
def underscoredDigits? (characters : List Char) : Option Nat := do
  let digits ← withoutUnderscores? characters
  if digits.all Char.isDigit then some (Decimal.digitsValue digits) else none

/-- The characters before a point that only zeros follow, if there is such a point. -/
def dropZeroFraction (characters : List Char) : List Char :=
  let whole := characters.takeWhile fun character => character != '.'
  match characters.drop whole.length with
  | '.' :: fraction => if fraction.all (· == '0') then whole else characters
  | _ => characters

/-- The integer that a text writes. -/
def wholeOfText? (text : String) : Option Int :=
  let (negative, body) := Decimal.takeSign (Text.trim text).toList
  (underscoredDigits? (dropZeroFraction body)).map fun value =>
    if negative then -(value : Int) else value

/-- The truth value that a text writes. -/
def truthOfText? (text : String) : Option Bool :=
  let word := String.ofList (text.toList.map Char.toLower)
  if ["1", "on", "t", "true", "y", "yes"].contains word then some true
  else if ["0", "off", "f", "false", "n", "no"].contains word then some false
  else none

/-- The binary64 number that a text writes. -/
def numberOfText? (text : String) : Option Binary64 :=
  (withoutUnderscores? (Text.trim text).toList).bind Decimal.read?

/-- A value that a text has to write. -/
def required {α : Type} (mismatch : Mismatch) : Option α → Checked α
  | some value => .ok value
  | none => Checked.fail mismatch

/-! ## Documents -/

/-- A text. -/
def text : Reader String
  | .text value => .ok value
  | _ => Checked.fail .notText

/-- A text that is not empty. -/
def filledText : Reader String
  | .text value => if value = "" then Checked.fail .textTooShort else .ok value
  | _ => Checked.fail .notText

/-- The integer that a whole binary64 number is. -/
def wholeOfFloat (value : Binary64) : Checked Int :=
  if !value.isFinite then Checked.fail .notFinite
  else required .notWholeFloat value.toInt?

/-- An integer. -/
def whole : Reader Int
  | .int value => .ok value
  | .bool value => .ok (if value then 1 else 0)
  | .float value => wholeOfFloat value
  | .text value => required .notWholeText (wholeOfText? value)
  | _ => Checked.fail .notWhole

/-- The truth value that a number is. -/
def truthOfWhole (value : Int) : Checked Bool :=
  if value = 0 then .ok false
  else if value = 1 then .ok true
  else Checked.fail .notTruthText

/-- A truth value. -/
def truth : Reader Bool
  | .bool value => .ok value
  | .text value => required .notTruthText (truthOfText? value)
  | .int value => truthOfWhole value
  | .float value =>
      match value.toInt? with
      | some whole => truthOfWhole whole
      | none => Checked.fail .notTruth
  | _ => Checked.fail .notTruth

/-- A cell; a list or an object is told by its text. -/
def cell : Reader Cell :=
  fun document => .ok document.asCell

/-- Any document. -/
def anything : Reader Json :=
  fun document => .ok document

/-- One of the texts that stand for a value. -/
def choice {α : Type} (find? : String → Option α) : Reader α
  | .text value => required .notChoice (find? value)
  | _ => Checked.fail .notChoice

/-- Nothing, or a value. -/
def optional {α : Type} (reader : Reader α) : Reader (Option α)
  | .null => .ok none
  | document => (reader document).map some

/-- A list of values. -/
def list {α : Type} (reader : Reader α) : Reader (List α)
  | .array elements =>
      Checked.all
        (elements.zipIdx.map fun entry => (reader entry.1).under (.index entry.2))
  | _ => Checked.fail .notList

/-- An object whose members have values of one shape. -/
def object {α : Type} (reader : Reader α) : Reader (Assoc α)
  | .object members =>
      let members := (Assoc.ofList members).entries
      (Checked.all
        (members.map fun entry =>
          ((reader entry.2).under (.key entry.1)).map fun value => (entry.1, value))).map
        Assoc.ofList
  | _ => Checked.fail .notObject

/-! ## Members -/

/-- A member that has to be there. -/
def member {α : Type} (key : String) (reader : Reader α) (document : Json) : Checked α :=
  Checked.under (.key key)
    (match document.member? key with
    | some value => reader value
    | none => Checked.fail .absent)

/-- A member with a default. -/
def memberOr {α : Type} (key : String) (default : α) (reader : Reader α) (document : Json) :
    Checked α :=
  match document.member? key with
  | some value => (reader value).under (.key key)
  | none => .ok default

/-- A member that may be left out, which is told apart from a member that is nothing. -/
def memberIfGiven {α : Type} (key : String) (reader : Reader α) (document : Json) :
    Checked (Option α) :=
  match document.member? key with
  | some value => ((reader value).under (.key key)).map some
  | none => .ok none

/-- An object with members that are read one by one. -/
def members {α : Type} (reader : Reader α) : Reader α
  | .object members => reader (.object members)
  | _ => Checked.fail .notMembers

end Tabular.Schema
