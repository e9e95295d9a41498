import Tabular.Text.CaseTable

namespace Tabular.Text

/-!
# Case mapping of texts

Lower and upper case by the full Unicode 14 mappings. One character may map to several. The one rule
that looks at the neighbours is the final sigma: a capital sigma becomes `ς` at the end of a word
and `σ` elsewhere, where the end of a word means a cased letter before and none after, past the
characters that are transparent to case.
-/

/-- A code point of one of the runs. -/
def inRuns (runs : List (Nat × Nat)) (point : Nat) : Bool :=
  runs.any fun run => run.1 ≤ point && point ≤ run.2

/-- A cased letter that the sigma rule sees. -/
def isCased (character : Char) : Bool :=
  if character.toNat < 128 then character.isAlpha
  else inRuns casedRuns character.toNat

/-- A character that the sigma rule looks past. -/
def isCaseIgnorable (character : Char) : Bool :=
  inRuns caseIgnorableRuns character.toNat

/-- The lower-case form of one character by itself, always one character. -/
def simpleLower (character : Char) : Char :=
  if character.toNat < 128 then character.toLower
  else if character = 'İ' then 'i'
  else ((CaseRun.find? lowerRuns character.toNat).map Char.ofNat).getD character

/-- The lower-case form of one character outside the sigma rule. -/
def lowerCharacter (character : Char) : List Char :=
  if character = 'İ' then ['i', Char.ofNat 0x307] else [simpleLower character]

/-- The upper-case form of one character. -/
def upperCharacter (character : Char) : List Char :=
  if character.toNat < 128 then [character.toUpper]
  else
    match upperExpansions.find? fun entry => entry.1 == character.toNat with
    | some entry => entry.2.toList
    | none => [((CaseRun.find? upperRuns character.toNat).map Char.ofNat).getD character]

/-- The next character that the sigma rule sees is a cased letter. -/
def startsCased (characters : List Char) : Bool :=
  match characters.dropWhile isCaseIgnorable with
  | [] => false
  | character :: _ => isCased character

/--
The lower-case form of the characters, where `afterCased` says whether the last character before
them that the sigma rule sees is a cased letter.
-/
def lowerFrom (afterCased : Bool) : List Char → List Char
  | [] => []
  | character :: rest =>
      let image :=
        if character = 'Σ' then
          if afterCased && !startsCased rest then ['ς'] else ['σ']
        else lowerCharacter character
      image ++
        lowerFrom (if isCaseIgnorable character then afterCased else isCased character) rest

/-- The lower-case form of a text. -/
def lower (text : String) : String :=
  String.ofList (lowerFrom false text.toList)

/-- The upper-case form of a text. -/
def upper (text : String) : String :=
  String.ofList (text.toList.flatMap upperCharacter)

end Tabular.Text
