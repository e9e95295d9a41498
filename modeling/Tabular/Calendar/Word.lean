import Tabular.Text.Blank
import Tabular.Text.DecimalDigit

namespace Tabular.Calendar

/-!
# Words of a date in free form

A date in free form is cut into words: runs of letters, numbers with at most one point, blanks and
single marks. Digits of every script become ASCII digits.
-/

/-- What kind of word is being read. -/
inductive WordKind where
  | letters
  | number
  /-- Letters after which points have come. -/
  | dottedLetters
  /-- Digits after which points have come. -/
  | dottedNumber
deriving DecidableEq

/-- A word that is being read. -/
structure OpenWord where
  kind : WordKind
  /-- The characters so far, the latest first. -/
  characters : List Char
  /-- More than a single letter has been read as letters. -/
  lettered : Bool

namespace OpenWord

/-- A letter, or a character of another script that is no digit and no blank. -/
def isLetter (character : Char) : Bool :=
  character.isAlpha ||
    (128 ≤ character.toNat && !Text.isDecimalDigit character && !Text.isBlankCharacter character)

/-- A word that starts with a character. -/
def start? (character : Char) : Option OpenWord :=
  if isLetter character then some ⟨.letters, [character], false⟩
  else if character.isDigit then some ⟨.number, [character], false⟩
  else none

/-- The word with one more character, when it goes on. -/
def extend? (word : OpenWord) (character : Char) : Option OpenWord :=
  let afterPoint := word.characters.head? == some '.'
  let grown (kind : WordKind) (lettered : Bool) : Option OpenWord :=
    some ⟨kind, character :: word.characters, lettered⟩
  match word.kind with
  | .letters =>
      if isLetter character then grown .letters true
      else if character = '.' then grown .dottedLetters true
      else none
  | .number =>
      if character.isDigit then grown .number word.lettered
      else if character = '.' || (character = ',' && 2 ≤ word.characters.length) then
        grown .dottedNumber word.lettered
      else none
  | .dottedLetters =>
      if character = '.' || isLetter character then grown .dottedLetters true
      else if character.isDigit && afterPoint then grown .dottedNumber true
      else none
  | .dottedNumber =>
      if character = '.' || character.isDigit then grown .dottedNumber word.lettered
      else if isLetter character && afterPoint then grown .dottedLetters word.lettered
      else none

/-- Points and commas become words of their own. -/
def splitAtMarks (current : List Char) : List Char → List (List Char)
  | [] => if current.isEmpty then [] else [current.reverse]
  | character :: rest =>
      if character = '.' ∨ character = ',' then
        (if current.isEmpty then [] else [current.reverse]) ++ [character] :: splitAtMarks [] rest
      else splitAtMarks (character :: current) rest

/-- The words that a finished word amounts to. -/
def words (word : OpenWord) : List (List Char) :=
  let characters := word.characters.reverse
  let points := (characters.filter (· == '.')).length
  let endsInMark := word.characters.head? == some '.' || word.characters.head? == some ','
  match word.kind with
  | .letters => [characters]
  | .number => [characters]
  | kind =>
      if word.lettered || 1 < points || endsInMark then splitAtMarks [] characters
      else if kind = .dottedNumber && points = 0 then
        [characters.map fun character => if character = ',' then '.' else character]
      else [characters]

end OpenWord

/-- The words from a place on, where a word may be open. -/
def wordsFrom : Option OpenWord → List Char → List (List Char)
  | none, [] => []
  | some word, [] => word.words
  | none, character :: rest =>
      match OpenWord.start? character with
      | some word => wordsFrom (some word) rest
      | none => [if Text.isBlankCharacter character then ' ' else character] :: wordsFrom none rest
  | some word, character :: rest =>
      match word.extend? character with
      | some longer => wordsFrom (some longer) rest
      | none =>
          word.words ++
            (match OpenWord.start? character with
            | some next => wordsFrom (some next) rest
            | none =>
                [if Text.isBlankCharacter character then ' ' else character] ::
                  wordsFrom none rest)

/-- A digit of any script as an ASCII digit; other characters stay. -/
def asciiDigit (character : Char) : Char :=
  match Text.digitValue? character with
  | some value => Char.ofNat (48 + value)
  | none => character

/-- The words of a text. -/
def wordsOf (characters : List Char) : List (List Char) :=
  wordsFrom none ((characters.filter (· != '\x00')).map asciiDigit)

end Tabular.Calendar
