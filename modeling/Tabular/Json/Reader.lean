import Tabular.Json.Basic
import Tabular.Text.Unit

namespace Tabular

/-!
# Reading documents

Reading a text as one document. A failure is the position, in characters, at which the text stops
being one. Besides the standard grammar the words for the numbers that are not finite are read, and
integers may have any number of digits.
-/

namespace Json

/-- What is left of a text, and the position of its first character. -/
structure Cursor where
  position : Nat
  rest : List Char

namespace Cursor

/-- The cursor so many characters further on. -/
def advance (cursor : Cursor) (count : Nat) : Cursor :=
  ⟨cursor.position + count, cursor.rest.drop count⟩

/-- The blank characters of the grammar. -/
def isSpace (character : Char) : Bool :=
  character = ' ' || character = '\t' || character = '\n' || character = '\r'

/-- The cursor past the blanks. -/
def skipSpace (cursor : Cursor) : Cursor :=
  cursor.advance (cursor.rest.takeWhile isSpace).length

end Cursor

/-- The sixteen-bit unit that four hexadecimal digits stand for. -/
def hexUnit? : List Char → Option Nat
  | a :: b :: c :: d :: _ => do
      let a ← Text.hexDigitValue? a
      let b ← Text.hexDigitValue? b
      let c ← Text.hexDigitValue? c
      let d ← Text.hexDigitValue? d
      some (((a * 16 + b) * 16 + c) * 16 + d)
  | _ => none

/-- The character of an escape letter. -/
def simpleEscape? (letter : Char) : Option Char :=
  if letter = '"' ∨ letter = '\\' ∨ letter = '/' then some letter
  else if letter = 'b' then some (Char.ofNat 8)
  else if letter = 'f' then some (Char.ofNat 12)
  else if letter = 'n' then some '\n'
  else if letter = 'r' then some '\r'
  else if letter = 't' then some '\t'
  else none

/--
The character of a unit. One half of a pair alone is no character, and the replacement character
stands for it.
-/
def unitCharacter (unit : Nat) : Char :=
  if Text.isSurrogate unit then Char.ofNat 0xfffd else Char.ofNat unit

/-- The second half of a pair of surrogates, written as an escape right here. -/
def lowSurrogate? : List Char → Option Nat
  | '\\' :: 'u' :: rest => (hexUnit? rest).filter Text.isLowSurrogate
  | _ => none

/--
The characters of a text up to its closing quote, collected in reverse. `start` is the position of
the opening quote and `fuel` bounds the number of characters.
-/
def readTextFrom (start : Nat) : Nat → List Char → Cursor → Except Nat (String × Cursor)
  | 0, _, _ => .error start
  | fuel + 1, collected, cursor =>
      match cursor.rest with
      | [] => .error start
      | '"' :: _ => .ok (String.ofList collected.reverse, cursor.advance 1)
      | '\\' :: [] => .error start
      | '\\' :: 'u' :: digits =>
          if digits.length < 5 then .error (cursor.position + 1)
          else
            match hexUnit? digits with
            | none => .error (cursor.position + 1)
            | some unit =>
                if Text.isHighSurrogate unit then
                  match lowSurrogate? (digits.drop 4) with
                  | some low =>
                      readTextFrom start fuel (Char.ofNat (Text.joinedPoint unit low) :: collected)
                        (cursor.advance 12)
                  | none =>
                      readTextFrom start fuel (unitCharacter unit :: collected) (cursor.advance 6)
                else
                  readTextFrom start fuel (unitCharacter unit :: collected) (cursor.advance 6)
      | '\\' :: letter :: _ =>
          match simpleEscape? letter with
          | some character => readTextFrom start fuel (character :: collected) (cursor.advance 2)
          | none => .error cursor.position
      | character :: _ =>
          if character.toNat < 32 then .error cursor.position
          else readTextFrom start fuel (character :: collected) (cursor.advance 1)

/-- A text, read at the first character after its opening quote. -/
def readText (cursor : Cursor) : Except Nat (String × Cursor) :=
  readTextFrom (cursor.position - 1) (cursor.rest.length + 1) [] cursor

/-- The digits at the front, when there are any. -/
def someDigits? (characters : List Char) : Option (List Char × List Char) :=
  let split := Decimal.spanDigits characters
  if split.1.isEmpty then none else some split

/-- The fraction of a number, with its point; empty when there is none. -/
def spanFraction (characters : List Char) : List Char × List Char :=
  match characters with
  | '.' :: rest =>
      match someDigits? rest with
      | some (digits, rest) => ('.' :: digits, rest)
      | none => ([], characters)
  | _ => ([], characters)

/-- The exponent of a number, with its mark and sign; empty when there is none. -/
def spanExponent (characters : List Char) : List Char × List Char :=
  match characters with
  | mark :: rest =>
      if mark = 'e' ∨ mark = 'E' then
        let (sign, digits) :=
          match rest with
          | '+' :: digits => (['+'], digits)
          | '-' :: digits => (['-'], digits)
          | digits => ([], digits)
        match someDigits? digits with
        | some (digits, rest) => (mark :: sign ++ digits, rest)
        | none => ([], characters)
      else ([], characters)
  | [] => ([], characters)

/-- The whole part of a number: a single zero, or digits that do not start with one. -/
def spanWhole? : List Char → Option (List Char × List Char)
  | '0' :: rest => some (['0'], rest)
  | characters => someDigits? characters

/-- Whether a minus stands at the front, and what follows it. -/
def takeMinus : List Char → Bool × List Char
  | '-' :: rest => (true, rest)
  | characters => (false, characters)

/-- A number; with a fraction or an exponent it is a binary64 number. -/
def readNumber (cursor : Cursor) : Except Nat (Json × Cursor) :=
  let (negative, unsigned) := takeMinus cursor.rest
  match spanWhole? unsigned with
  | none => .error cursor.position
  | some (whole, rest) =>
      let (fraction, rest) := spanFraction rest
      let (exponent, _) := spanExponent rest
      let numeral := whole ++ fraction ++ exponent
      let after := cursor.advance (numeral.length + if negative then 1 else 0)
      if fraction.isEmpty && exponent.isEmpty then
        let value : Int := Decimal.digitsValue whole
        .ok (.int (if negative then -value else value), after)
      else
        .ok (.float ((Decimal.readUnsigned? negative numeral).getD .nan), after)

/-- The words of the grammar and what they stand for. -/
def words : List (String × Json) :=
  [("null", .null), ("true", .bool true), ("false", .bool false), ("NaN", .float .nan),
    ("Infinity", .float (.infinite false)), ("-Infinity", .float (.infinite true))]

/-- A word of the grammar at the cursor. -/
def readWord? (cursor : Cursor) : Option (Json × Cursor) :=
  (words.find? fun word => word.1.toList.isPrefixOf cursor.rest).map fun word =>
    (word.2, cursor.advance word.1.length)

mutual

/-- A value at the cursor, without blanks before it; `fuel` bounds the steps. -/
def readValue : Nat → Cursor → Except Nat (Json × Cursor)
  | 0, cursor => .error cursor.position
  | fuel + 1, cursor =>
      match cursor.rest with
      | '"' :: _ => do
          let (body, cursor) ← readText (cursor.advance 1)
          .ok (.text body, cursor)
      | '[' :: _ =>
          let inner := (cursor.advance 1).skipSpace
          match inner.rest with
          | ']' :: _ => .ok (.array [], inner.advance 1)
          | _ => readElements fuel [] inner
      | '{' :: _ =>
          let inner := (cursor.advance 1).skipSpace
          match inner.rest with
          | '}' :: _ => .ok (.object [], inner.advance 1)
          | _ => readMembers fuel [] inner
      | _ =>
          match readWord? cursor with
          | some result => .ok result
          | none => readNumber cursor

/-- The elements of an array from here to its end, collected in reverse. -/
def readElements : Nat → List Json → Cursor → Except Nat (Json × Cursor)
  | 0, _, cursor => .error cursor.position
  | fuel + 1, collected, cursor => do
      let (element, cursor) ← readValue fuel cursor
      let cursor := cursor.skipSpace
      match cursor.rest with
      | ']' :: _ => .ok (.array (element :: collected).reverse, cursor.advance 1)
      | ',' :: _ => readElements fuel (element :: collected) (cursor.advance 1).skipSpace
      | _ => .error cursor.position

/-- The members of an object from here to its end, collected in reverse. -/
def readMembers : Nat → List (String × Json) → Cursor → Except Nat (Json × Cursor)
  | 0, _, cursor => .error cursor.position
  | fuel + 1, collected, cursor =>
      match cursor.rest with
      | '"' :: _ => do
          let (key, cursor) ← readText (cursor.advance 1)
          let cursor := cursor.skipSpace
          match cursor.rest with
          | ':' :: _ =>
              let (value, cursor) ← readValue fuel (cursor.advance 1).skipSpace
              let cursor := cursor.skipSpace
              match cursor.rest with
              | '}' :: _ => .ok (.object ((key, value) :: collected).reverse, cursor.advance 1)
              | ',' :: _ =>
                  readMembers fuel ((key, value) :: collected) (cursor.advance 1).skipSpace
              | _ => .error cursor.position
          | _ => .error cursor.position
      | _ => .error cursor.position

end

/-- The document that a text is, or the position where it stops being one. -/
def read (text : String) : Except Nat Json := do
  let start := Cursor.skipSpace ⟨0, text.toList⟩
  let (document, cursor) ← readValue (2 * start.rest.length + 2) start
  let cursor := cursor.skipSpace
  if cursor.rest.isEmpty then .ok document else .error cursor.position

end Json

end Tabular
