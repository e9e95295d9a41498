import Tabular.Pattern.CaseKin
import Tabular.Text.Blank
import Tabular.Text.DecimalDigit
import Tabular.Text.WordCharacter

namespace Tabular.Pattern

/-!
# Patterns

A written pattern is read one character at a time, except that a backslash and the character after
it are read together. Everything that the flags of a pattern decide, such as whether case counts and
what a word is, is already settled in its abstract form, so that matching needs no flags.
-/

/-! ## Tokens of a written pattern -/

/-- A character of a written pattern, or one that a backslash makes special. -/
inductive Token where
  | plain (character : Char)
  | escaped (character : Char)
deriving DecidableEq, Repr

/-- The characters of a token as they are written. -/
def Token.written : Token → List Char
  | .plain character => [character]
  | .escaped character => ['\\', character]

/-- The tokens of a written pattern, and whether a backslash is left over at its end. -/
def Token.ofCharacters : List Char → List Token × Bool
  | [] => ([], false)
  | ['\\'] => ([], true)
  | '\\' :: character :: rest =>
      let (tokens, dangling) := ofCharacters rest
      (.escaped character :: tokens, dangling)
  | character :: rest =>
      let (tokens, dangling) := ofCharacters rest
      (.plain character :: tokens, dangling)

/-- The longest run of characters with a property at the start, no longer than the bound. -/
def Token.spanPlain (holds : Char → Bool) : Nat → List Token → List Char × List Token
  | bound + 1, .plain character :: rest =>
      if holds character then
        let (run, left) := spanPlain holds bound rest
        (character :: run, left)
      else ([], .plain character :: rest)
  | _, tokens => ([], tokens)

/-! ## The abstract form -/

/-- A class of characters with a name of its own. -/
inductive CharClass where
  | digit
  | blank
  | word
deriving DecidableEq, Repr

/-- The character is in the class; `ascii` confines the classes to ASCII. -/
def CharClass.holds (charClass : CharClass) (ascii : Bool) (character : Char) : Bool :=
  let isAscii := character.toNat < 128
  match charClass with
  | .digit => if ascii then isAscii && character.isDigit else Text.isDecimalDigit character
  | .blank =>
      if ascii then (9 ≤ character.toNat && character.toNat ≤ 13) || character.toNat == 32
      else Text.isBlankCharacter character
  | .word =>
      character == '_' ||
        (if ascii then isAscii && character.isAlphanum else Text.isAlphanumeric character)

/-- One entry of a set of characters. -/
inductive SetItem where
  /-- A code point, in every case when case is ignored. -/
  | point (value : Nat)
  /-- The code points of a range, in every case when case is ignored. -/
  | range (low high : Nat)
  /-- A class of characters or its complement. -/
  | charClass (charClass : CharClass) (complement : Bool)
deriving DecidableEq, Repr

/-- A test of one character. -/
structure CharTest where
  /-- Whether letters of different case count as the same. -/
  mode : CaseMode
  /-- Whether the classes are confined to ASCII. -/
  ascii : Bool
  /-- Whether the characters outside the entries are meant. -/
  complement : Bool
  /-- Whether the test is a set of several entries. -/
  severalItems : Bool
  items : List SetItem
deriving DecidableEq, Repr

/-- A position that a pattern may ask for. -/
inductive Anchor where
  | textStart
  | lineStart
  | textEnd
  /-- The end of the text, or just before a line break that ends it. -/
  | lastLineEnd
  | lineEnd
  | wordBoundary (ascii : Bool)
  | wordInterior (ascii : Bool)
deriving DecidableEq, Repr

/-- How a repetition chooses between going on and leaving off. -/
inductive Greed where
  | greedy
  | lazy
  /-- As often as possible, and never reconsidered. -/
  | possessive
deriving DecidableEq, Repr

/-- A pattern. -/
inductive Node where
  | empty
  | char (test : CharTest)
  | anchor (position : Anchor)
  | sequence (first second : Node)
  | choice (first second : Node)
  | capture (index : Nat) (body : Node)
  | repetition (greed : Greed) (least : Nat) (most : Option Nat) (body : Node)
  | lookAhead (negative : Bool) (body : Node)
  /-- The body, of a fixed width, stands just before the position. -/
  | lookBehind (negative : Bool) (width : Nat) (body : Node)
  /-- The first way in which the body matches, never reconsidered. -/
  | atomic (body : Node)
  | backReference (mode : CaseMode) (index : Nat)
  | conditional (index : Nat) (yes no : Node)
deriving Inhabited

end Tabular.Pattern
