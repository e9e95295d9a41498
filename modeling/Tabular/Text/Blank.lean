namespace Tabular.Text

/-!
# Blank characters, trimming and searching

Text is worked on as a list of characters. A blank is a character that separates words in the
Unicode sense, the four ASCII information separators included; a text of blanks only is blank.
-/

/-- A character that separates words. -/
def isBlankCharacter (character : Char) : Bool :=
  let point := character.toNat
  (9 ≤ point && point ≤ 13) || (28 ≤ point && point ≤ 32) || point == 0x85 || point == 0xa0 ||
    point == 0x1680 || (0x2000 ≤ point && point ≤ 0x200a) || point == 0x2028 || point == 0x2029 ||
    point == 0x202f || point == 0x205f || point == 0x3000

/-- The characters without the blanks at the front. -/
def trimFront (characters : List Char) : List Char :=
  characters.dropWhile isBlankCharacter

/-- The characters without the blanks at both ends. -/
def trimBoth (characters : List Char) : List Char :=
  (trimFront (trimFront characters).reverse).reverse

/-- The text without the blanks at both ends. -/
def trim (text : String) : String :=
  String.ofList (trimBoth text.toList)

/-- Nothing but blanks. -/
def isBlank (text : String) : Bool :=
  text.toList.all isBlankCharacter

/-- The needle stands somewhere in the characters. -/
def occursIn (needle : List Char) : List Char → Bool
  | [] => needle.isEmpty
  | character :: rest => needle.isPrefixOf (character :: rest) || occursIn needle rest

/-- The pieces between the separators; one piece more than there are separators. -/
def piecesAt (separator : Char) : List Char → List (List Char)
  | [] => [[]]
  | character :: rest =>
      if character = separator then [] :: piecesAt separator rest
      else
        match piecesAt separator rest with
        | [] => [[character]]
        | piece :: pieces => (character :: piece) :: pieces

/-- The pieces of a text between the separators. -/
def split (separator : Char) (text : String) : List String :=
  (piecesAt separator text.toList).map String.ofList

end Tabular.Text
