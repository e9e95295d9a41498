import Tabular.Number.Decimal
import Tabular.Pattern.Syntax
import Tabular.Text.Unit

namespace Tabular.Pattern

/-!
# Reading a written pattern

A pattern is a choice of sequences of repeated items. Reading settles the flags, numbers the groups
and checks everything that makes a pattern invalid. Some faults are only looked at once the whole
pattern has been read: a look-behind of varying width, and a repetition in a pattern that forbids
repetitions. Every item carries the least and the greatest number of characters that it can take.

Characters are not looked up by their Unicode names, so an escape that names one is malformed here.
-/

/-- Why a written pattern is none. -/
inductive PatternFault where
  | malformed
  /-- A repetition count beyond the counts that a pattern can have. -/
  | countTooLarge
  /-- A repetition count with more digits than are read. -/
  | countTooLong
  /-- The pattern asks for both meanings of the character classes. -/
  | conflictingFlags
deriving DecidableEq, Repr

/-- The flags in force at a place of a pattern. -/
structure Flags where
  ignoreCase : Bool := false
  multiLine : Bool := false
  dotAll : Bool := false
  verbose : Bool := false
  ascii : Bool := false
  unicode : Bool := false
  noRepetition : Bool := false
deriving DecidableEq, Repr

namespace Flags

/-- The flags of a single letter. -/
def ofLetter? : Char → Option Flags
  | 'i' => some { ignoreCase := true }
  | 'm' => some { multiLine := true }
  | 's' => some { dotAll := true }
  | 'x' => some { verbose := true }
  | 'a' => some { ascii := true }
  | 'u' => some { unicode := true }
  | 't' => some { noRepetition := true }
  | _ => none

/-- The flags that are in one of the two. -/
def union (left right : Flags) : Flags where
  ignoreCase := left.ignoreCase || right.ignoreCase
  multiLine := left.multiLine || right.multiLine
  dotAll := left.dotAll || right.dotAll
  verbose := left.verbose || right.verbose
  ascii := left.ascii || right.ascii
  unicode := left.unicode || right.unicode
  noRepetition := left.noRepetition || right.noRepetition

/-- A flag is in both. -/
def meets (left right : Flags) : Bool :=
  (left.ignoreCase && right.ignoreCase) || (left.multiLine && right.multiLine) ||
    (left.dotAll && right.dotAll) || (left.verbose && right.verbose) ||
    (left.ascii && right.ascii) || (left.unicode && right.unicode)

/-- The flags inside a group that turns some on and some off. -/
def within (outer added removed : Flags) : Flags where
  ignoreCase := (outer.ignoreCase || added.ignoreCase) && !removed.ignoreCase
  multiLine := (outer.multiLine || added.multiLine) && !removed.multiLine
  dotAll := (outer.dotAll || added.dotAll) && !removed.dotAll
  verbose := (outer.verbose || added.verbose) && !removed.verbose
  ascii := if added.ascii || added.unicode then added.ascii else outer.ascii
  unicode := if added.ascii || added.unicode then added.unicode else outer.unicode
  noRepetition := outer.noRepetition

/-- How the flags treat the case of letters. -/
def caseMode (flags : Flags) : CaseMode :=
  if flags.ignoreCase then if flags.ascii then .asciiFolded else .folded else .exact

end Flags

/-- The least and the greatest number of characters that a pattern takes. -/
structure Width where
  least : Nat
  greatest : Nat
deriving DecidableEq, Repr

namespace Width

/-- Widths are not counted beyond this. -/
def limit : Nat := Nat.pow 2 64

/-- The greatest width that a look-behind can have. -/
def lookBehindLimit : Nat := Nat.pow 2 32 - 1

/-- No characters. -/
def zero : Width := ⟨0, 0⟩

/-- One character. -/
def one : Width := ⟨1, 1⟩

/-- One after the other. -/
def add (left right : Width) : Width :=
  ⟨left.least + right.least, left.greatest + right.greatest⟩

/-- One or the other. -/
def either (left right : Width) : Width :=
  ⟨min left.least right.least, max left.greatest right.greatest⟩

/-- Both ends cut at the limit. -/
def capped (width : Width) : Width :=
  ⟨min width.least limit, min width.greatest limit⟩

/-- So many times. -/
def repeated (width : Width) (least : Nat) (most : Option Nat) : Width where
  least := width.least * least
  greatest :=
    match most with
    | some count => width.greatest * count
    | none => if width.greatest = 0 then 0 else limit

end Width

/-- What an item is, as far as a repetition after it is concerned. -/
inductive ItemKind where
  | anchor
  | repetition
  | other
deriving DecidableEq, Repr

/-- An item of a sequence. -/
structure Item where
  node : Node
  width : Width
  kind : ItemKind := .other

/-- A part of a pattern that has been read. -/
structure Part where
  node : Node
  width : Width

/-- What reading has come to. -/
structure Progress where
  rest : List Token
  /-- A backslash is left over at the end of the tokens. -/
  dangling : Bool
  /-- The flags for the whole pattern. -/
  flags : Flags
  /-- The widths of the groups opened so far, none while a group is open. -/
  groups : List (Option Width) := []
  names : List (String × Nat) := []
  /-- The number of groups opened before the outermost look-behind that is being read. -/
  lookBehindGroups : Option Nat := none
  /-- The group numbers that conditions ask for. -/
  conditions : List Nat := []
  /-- A look-behind has a varying or an excessive width. -/
  badLookBehind : Bool := false
  /-- A repetition occurs. -/
  repeats : Bool := false

/-- Reading a part of a pattern. -/
abbrev Reading := StateT Progress (Except PatternFault)

namespace Reading

/-- The pattern is malformed. -/
def fail {α : Type} : Reading α :=
  throw .malformed

/-- The token that comes next. -/
def peek : Reading (Option Token) := do
  return (← get).rest.head?

/-- Take over what is left; a left-over backslash must not come next. -/
def moveTo (rest : List Token) : Reading Unit := do
  let progress ← get
  if rest.isEmpty && progress.dangling then fail
  else set { progress with rest }

/-- Take the token that comes next. -/
def take : Reading (Option Token) := do
  match (← get).rest with
  | [] => return none
  | token :: rest =>
      moveTo rest
      return some token

/-- Take the given character if it comes next. -/
def accept (character : Char) : Reading Bool := do
  match (← get).rest with
  | .plain next :: rest =>
      if next = character then
        moveTo rest
        return true
      else return false
  | _ => return false

/-- Take the given character, which has to come next. -/
def require (character : Char) : Reading Unit := do
  if ← accept character then return () else fail

/-- Take at most so many characters with a property. -/
def takeRun (bound : Nat) (holds : Char → Bool) : Reading (List Char) := do
  let progress ← get
  let (run, rest) := Token.spanPlain holds bound progress.rest
  if !run.isEmpty then moveTo rest
  return run

/-- Take everything before a character, and the character; something has to stand before it. -/
def takeUntil (stop : Char) : Reading (List Char) := do
  let progress ← get
  let before := progress.rest.takeWhile (· ≠ .plain stop)
  let after := progress.rest.drop before.length
  match after with
  | [] => fail
  | _ :: rest =>
      moveTo rest
      if before.isEmpty then fail else return before.flatMap Token.written

end Reading

open Reading

/-! ## Characters and classes -/

/-- An octal digit. -/
def isOctalDigit (character : Char) : Bool :=
  '0' ≤ character && character ≤ '7'

/-- A hexadecimal digit. -/
def isHexDigit (character : Char) : Bool :=
  (Text.hexDigitValue? character).isSome

/-- The value of digits in a base. -/
def valueInBase (base : Nat) (digits : List Char) : Nat :=
  digits.foldl (fun value digit => base * value + (Text.hexDigitValue? digit).getD 0) 0

/-- The control character that a letter stands for after a backslash. -/
def controlPoint? : Char → Option Nat
  | 'a' => some 7
  | 'f' => some 12
  | 'n' => some 10
  | 'r' => some 13
  | 't' => some 9
  | 'v' => some 11
  | '\\' => some 92
  | _ => none

/-- The class that a letter stands for after a backslash; capitals stand for the complement. -/
def classItem? : Char → Option SetItem
  | 'd' => some (.charClass .digit false)
  | 'D' => some (.charClass .digit true)
  | 's' => some (.charClass .blank false)
  | 'S' => some (.charClass .blank true)
  | 'w' => some (.charClass .word false)
  | 'W' => some (.charClass .word true)
  | _ => none

/-- The position that a letter stands for after a backslash. -/
def anchorOfLetter? (flags : Flags) : Char → Option Anchor
  | 'A' => some .textStart
  | 'b' => some (.wordBoundary flags.ascii)
  | 'B' => some (.wordInterior flags.ascii)
  | 'Z' => some .textEnd
  | _ => none

/-- A code point written with exactly so many hexadecimal digits. -/
def readHexPoint (digits : Nat) : Reading Nat := do
  let run ← takeRun digits isHexDigit
  if run.length = digits then
    let value := valueInBase 16 run
    if value ≤ 0x10ffff then return value else fail
  else fail

/-- An octal number that starts with the given digits; it has to fit into a byte. -/
def octalPoint (digits : List Char) : Reading Nat :=
  let value := valueInBase 8 digits
  if value ≤ 0o377 then return value else fail

/-- A code point written after a backslash by its number, or a character that stands for itself. -/
def readEscapedPoint (letter : Char) : Reading Nat := do
  match letter with
  | 'x' => readHexPoint 2
  | 'u' => readHexPoint 4
  | 'U' => readHexPoint 8
  | _ => if letter.isAlpha || letter.isDigit then fail else return letter.toNat

/-- What a backslash and a letter stand for inside a set. -/
def readSetEscape (letter : Char) : Reading SetItem := do
  if letter = 'b' then return .point 8
  match controlPoint? letter, classItem? letter with
  | some point, _ => return .point point
  | none, some item => return item
  | none, none =>
      if isOctalDigit letter then
        let more ← takeRun 2 isOctalDigit
        return .point (← octalPoint (letter :: more))
      else return .point (← readEscapedPoint letter)

/-- One entry of a set. -/
def readSetEntry : Token → Reading SetItem
  | .plain character => return .point character.toNat
  | .escaped letter => readSetEscape letter

/-- The range between two entries, which have to be characters in order. -/
def rangeItem : SetItem → SetItem → Reading SetItem
  | .point low, .point high => if low ≤ high then return .range low high else fail
  | _, _ => fail

/--
The entries of a set up to the bracket that closes it, the latest first. A bracket that comes first
stands for itself.
-/
def readSetEntries : Nat → List SetItem → Reading (List SetItem)
  | 0, _ => fail
  | fuel + 1, entries => do
      match ← take with
      | none => fail
      | some token =>
          if token = .plain ']' && !entries.isEmpty then return entries
          else
            let low ← readSetEntry token
            if ← accept '-' then
              match ← take with
              | none => fail
              | some (.plain ']') => return .point '-'.toNat :: low :: entries
              | some other =>
                  let high ← readSetEntry other
                  let item ← rangeItem low high
                  readSetEntries fuel (item :: entries)
            else readSetEntries fuel (low :: entries)

/-- The entries without those that occur again later. -/
def distinctItems : List SetItem → List SetItem
  | [] => []
  | item :: rest => if rest.contains item then distinctItems rest else item :: distinctItems rest

/-- A set of characters up to the bracket that closes it. -/
def readSet (flags : Flags) : Reading CharTest := do
  let complement ← accept '^'
  let progress ← get
  let entries ← readSetEntries (progress.rest.length + 1) []
  let items := (distinctItems entries).reverse
  let single :=
    match items with
    | [.point _] => true
    | _ => false
  return {
    mode := flags.caseMode
    ascii := flags.ascii
    complement
    severalItems := !single
    items }

/-- The test for one code point. -/
def pointTest (flags : Flags) (point : Nat) : CharTest where
  mode := flags.caseMode
  ascii := flags.ascii
  complement := false
  severalItems := false
  items := [.point point]

/-- The test for the characters of a class. -/
def classTest (flags : Flags) (item : SetItem) : CharTest where
  mode := flags.caseMode
  ascii := flags.ascii
  complement := false
  severalItems := true
  items := [item]

/-- The test that a dot stands for. -/
def dotTest (flags : Flags) : CharTest where
  mode := .exact
  ascii := flags.ascii
  complement := true
  severalItems := false
  items := if flags.dotAll then [] else [.point '\n'.toNat]

/-- The item of a test of one character. -/
def testItem (test : CharTest) : Item where
  node := .char test
  width := .one

/-! ## Groups -/

/-- The width of a group that has been closed. -/
def closedWidth? (index : Nat) : Reading (Option Width) := do
  let groups := (← get).groups
  if index = 0 then return none
  else return (groups[index - 1]?).join

/-- A group that is referred to inside a look-behind has to be closed before the look-behind. -/
def checkLookBehindGroup (index : Nat) : Reading Unit := do
  match (← get).lookBehindGroups with
  | none => return ()
  | some opened =>
      if (← closedWidth? index).isSome && index ≤ opened then return () else fail

/-- A reference to a closed group. -/
def referenceItem (flags : Flags) (index : Nat) : Reading Item := do
  match ← closedWidth? index with
  | some width =>
      checkLookBehindGroup index
      return { node := .backReference flags.caseMode index, width }
  | none => fail

/-- Open the next group, under a name that no other group has; its number. -/
def openGroup (name : Option String) : Reading Nat := do
  let progress ← get
  let index := progress.groups.length + 1
  match name with
  | none => set { progress with groups := progress.groups ++ [none] }
  | some name =>
      if (progress.names.find? fun entry => entry.1 == name).isSome then fail
      else
        set
          { progress with
            groups := progress.groups ++ [none]
            names := (name, index) :: progress.names }
  return index

/-- Close a group. -/
def closeGroup (index : Nat) (width : Width) : Reading Unit :=
  modify fun progress => { progress with groups := progress.groups.set (index - 1) (some width) }

/-- The number of the group with a name. -/
def groupNamed (characters : List Char) : Reading Nat := do
  let name := String.ofList characters
  if !Text.isIdentifier characters then fail
  else
    match (← get).names.find? fun entry => entry.1 == name with
    | some (_, index) => return index
    | none => fail

/-- Digits, with single underscores between them. -/
def groupedDigits? : List Char → Option (List Char)
  | [] => none
  | [character] => (Text.digitValue? character).map fun value => [Char.ofNat (48 + value)]
  | character :: '_' :: rest => do
      let value ← Text.digitValue? character
      let more ← groupedDigits? rest
      some (Char.ofNat (48 + value) :: more)
  | character :: rest => do
      let value ← Text.digitValue? character
      let more ← groupedDigits? rest
      some (Char.ofNat (48 + value) :: more)

/-- The number of the group that a condition asks for, by name or by a positive number. -/
def conditionGroup (characters : List Char) : Reading Nat := do
  if Text.isIdentifier characters then groupNamed characters
  else
    let digits :=
      match Text.trimBoth characters with
      | '+' :: digits => digits
      | digits => digits
    match groupedDigits? digits with
    | none => fail
    | some digits =>
        let index := Decimal.digitsValue digits
        if index = 0 then fail
        else
          modify fun progress => { progress with conditions := index :: progress.conditions }
          return index

/-! ## Escapes outside sets -/

/-- A group reference or an octal number that starts with the given digit, which is no zero. -/
def readNumberedEscape (flags : Flags) (first : Char) : Reading Item := do
  match ← takeRun 1 Char.isDigit with
  | [second] =>
      if isOctalDigit first && isOctalDigit second then
        match ← takeRun 1 isOctalDigit with
        | [third] => return testItem (pointTest flags (← octalPoint [first, second, third]))
        | _ => referenceItem flags (Decimal.digitsValue [first, second])
      else referenceItem flags (Decimal.digitsValue [first, second])
  | _ => referenceItem flags (Decimal.digitsValue [first])

/-- What a backslash and a letter stand for. -/
def readEscape (flags : Flags) (letter : Char) : Reading Item := do
  match anchorOfLetter? flags letter, classItem? letter, controlPoint? letter with
  | some position, _, _ =>
      return { node := .anchor position, width := .zero, kind := .anchor }
  | none, some item, _ => return testItem (classTest flags item)
  | none, none, some point => return testItem (pointTest flags point)
  | none, none, none =>
      if letter = '0' then
        let more ← takeRun 2 isOctalDigit
        return testItem (pointTest flags (valueInBase 8 more))
      else if letter.isDigit then readNumberedEscape flags letter
      else return testItem (pointTest flags (← readEscapedPoint letter))

/-! ## Repetitions -/

/-- Counts from here on are too large. -/
def countLimit : Nat := Nat.pow 2 32 - 1

/--
Counts with more digits than this are not read. No other integer has such a limit: those of
documents and of cells may have any number of digits.
-/
def countDigitLimit : Nat := 4300

/-- A written count; none when there are no digits. -/
def readCount (digits : List Char) : Reading (Option Nat) :=
  if digits.isEmpty then return none
  else if countDigitLimit < digits.length then throw .countTooLong
  else
    let count := Decimal.digitsValue digits
    if countLimit ≤ count then throw .countTooLarge else return some count

/-- The bounds of a repetition in braces; none, and nothing taken, when the braces are no bounds. -/
def readBounds : Reading (Option (Nat × Option Nat)) := do
  let start := (← get).rest
  if start.head? = some (.plain '}') then return none
  let low ← takeRun start.length Char.isDigit
  let high ←
    if ← accept ',' then takeRun start.length Char.isDigit
    else pure low
  if ← accept '}' then
    let least ← readCount low
    let most ← readCount high
    match most with
    | some most => if most < least.getD 0 then fail else return some (least.getD 0, some most)
    | none => return some (least.getD 0, none)
  else
    moveTo start
    return none

/-- How a repetition chooses, by the mark after it. -/
def readGreed : Reading Greed := do
  if ← accept '?' then return .lazy
  else if ← accept '+' then return .possessive
  else return .greedy

/-- The latest item, repeated; it must be one that can be. -/
def repeatLast (items : List Item) (least : Nat) (most : Option Nat) : Reading (List Item) := do
  match items with
  | [] => fail
  | item :: earlier =>
      match item.kind with
      | .other =>
          let greed ← readGreed
          modify fun progress => { progress with repeats := true }
          return {
            node := .repetition greed least most item.node
            width := item.width.repeated least most
            kind := .repetition } :: earlier
      | _ => fail

/-! ## Flags in a group -/

/-- The flags from the given letter on, up to a character that is no flag. -/
def readFlagLetters : Nat → Char → Flags → Reading (Flags × Char)
  | 0, _, _ => fail
  | fuel + 1, letter, flags => do
      match Flags.ofLetter? letter with
      | none => return (flags, letter)
      | some flag =>
          let flags := flags.union flag
          if (flag.ascii || flag.unicode) && flags.ascii && flags.unicode then fail
          else
            match ← take with
            | some (.plain next) => readFlagLetters fuel next flags
            | _ => fail

/-- What the flags at the start of a group say. -/
inductive FlagGroup where
  /-- Flags for the whole pattern. -/
  | wholePattern (added : Flags)
  /-- Flags for the rest of the group. -/
  | restOfGroup (added removed : Flags)

/-- The flags at the start of a group, from the given character on. -/
def readFlagGroup (first : Char) : Reading FlagGroup := do
  let fuel := (← get).rest.length + 1
  let (added, stop) ←
    if first = '-' then pure ({}, first)
    else readFlagLetters fuel first {}
  match stop with
  | ')' => return .wholePattern added
  | ':' => if added.noRepetition then fail else return .restOfGroup added {}
  | '-' =>
      if added.noRepetition then fail
      else
        match ← take with
        | some (.plain letter) =>
            if (Flags.ofLetter? letter).isNone then fail
            else
              let (removed, stop) ← readFlagLetters fuel letter {}
              if stop ≠ ':' || removed.ascii || removed.unicode || removed.noRepetition ||
                  added.meets removed then fail
              else return .restOfGroup added removed
        | _ => fail
  | _ => fail

/-! ## Sequences, choices and groups -/

/-- Items one after the other, given latest first. -/
def sequenceOf (items : List Item) : Part :=
  let items := items.reverse
  match items with
  | [] => ⟨.empty, .zero⟩
  | [item] => ⟨item.node, item.width.capped⟩
  | items =>
      ⟨items.foldr (fun item rest => .sequence item.node rest) .empty,
        (items.foldl (fun total item => Width.add total item.width) Width.zero).capped⟩

/-- The test of a part that is nothing but a set of characters, not taken in the complement. -/
def Part.test? (part : Part) : Option CharTest :=
  match part.node with
  | .char test => if test.complement then none else some test
  | _ => none

/-- The set of the characters of several sets that treat letters and classes alike. -/
def mergedTest? : List CharTest → Option CharTest
  | [] => none
  | first :: rest =>
      if rest.all fun test => test.mode == first.mode && test.ascii == first.ascii then
        let items := distinctItems ((first :: rest).flatMap CharTest.items)
        some { first with items, severalItems := items != first.items || first.severalItems }
      else none

/-- A choice between parts in order, given latest first. Sets of characters become one set. -/
def choiceOf (parts : List Part) : Part :=
  match parts with
  | [] => ⟨.empty, .zero⟩
  | [part] => part
  | last :: earlier =>
      let merged := (parts.reverse.mapM Part.test?).bind mergedTest?
      match merged with
      | some test => ⟨.char test, .one⟩
      | none =>
          earlier.foldl
            (fun later part => ⟨.choice part.node later.node, part.width.either later.width⟩) last

/-- Skip a comment that runs to the end of the line. -/
def skipLine : Reading Unit := do
  let rest := (← get).rest
  let after := rest.dropWhile (· ≠ .plain '\n')
  if after.isEmpty then
    if (← get).dangling then fail else moveTo []
  else moveTo (after.drop 1)

/-- Skip a comment in a group, which has to be closed. -/
def skipComment : Reading Unit := do
  let after := (← get).rest.dropWhile (· ≠ .plain ')')
  if after.isEmpty then fail else moveTo (after.drop 1)

/-- A blank that a verbose pattern skips. -/
def isVerboseBlank (character : Char) : Bool :=
  character == ' ' || (9 ≤ character.toNat && character.toNat ≤ 13)

/-- A look-behind has to have one width, and not too large a one. -/
def lookBehindItem (negative : Bool) (part : Part) : Reading Item := do
  if part.width.least ≠ part.width.greatest || Width.lookBehindLimit < part.width.least then
    modify fun progress => { progress with badLookBehind := true }
  return { node := .lookBehind negative part.width.least part.node, width := .zero }

/-- What a group starts with. -/
inductive GroupStart where
  | capture (name : Option String)
  | plainGroup
  | flagged (added removed : Flags)
  | atomic
  | look (behind negative : Bool)
  | condition (index : Nat)
  /-- Nothing more is to be read: the group is a complete item, or none. -/
  | done (item : Option Item)
  /-- Flags for the whole pattern. -/
  | globalFlags (added : Flags)

/-- The start of a group after its bracket and a question mark. -/
def readExtension (flags : Flags) : Reading GroupStart := do
  match ← take with
  | some (.plain 'P') =>
      if ← accept '<' then
        let name ← takeUntil '>'
        if Text.isIdentifier name then return .capture (some (String.ofList name)) else fail
      else if ← accept '=' then
        let index ← groupNamed (← takeUntil ')')
        return .done (some (← referenceItem flags index))
      else fail
  | some (.plain ':') => return .plainGroup
  | some (.plain '#') =>
      skipComment
      return .done none
  | some (.plain '=') => return .look false false
  | some (.plain '!') => return .look false true
  | some (.plain '<') =>
      match ← take with
      | some (.plain '=') => return .look true false
      | some (.plain '!') => return .look true true
      | _ => fail
  | some (.plain '(') =>
      let index ← conditionGroup (← takeUntil ')')
      checkLookBehindGroup index
      return .condition index
  | some (.plain '>') => return .atomic
  | some (.plain character) =>
      if (Flags.ofLetter? character).isSome || character = '-' then
        match ← readFlagGroup character with
        | .wholePattern added => return .globalFlags added
        | .restOfGroup added removed => return .flagged added removed
      else fail
  | _ => fail

mutual

/-- A choice of sequences; `outermost` for the whole pattern. -/
def readChoice : Nat → Flags → Bool → List Part → Reading Part
  | 0, _, _, _ => fail
  | fuel + 1, flags, outermost, earlier => do
      let progress ← get
      let flags := if outermost then progress.flags else flags
      let part ← readSequence fuel flags (outermost && earlier.isEmpty) []
      if ← accept '|' then readChoice fuel flags outermost (part :: earlier)
      else return choiceOf (part :: earlier)

/--
A sequence of items up to a bar, a closing bracket or the end. `mayFlag` tells that flags for the
whole pattern may come as long as there are no items.
-/
def readSequence : Nat → Flags → Bool → List Item → Reading Part
  | 0, _, _, _ => fail
  | fuel + 1, flags, mayFlag, items => do
      match ← peek with
      | none => return sequenceOf items
      | some (.plain '|') => return sequenceOf items
      | some (.plain ')') => return sequenceOf items
      | some token =>
          let _ ← take
          match token with
          | .escaped letter =>
              let item ← readEscape flags letter
              readSequence fuel flags mayFlag (item :: items)
          | .plain character =>
              if flags.verbose && isVerboseBlank character then
                readSequence fuel flags mayFlag items
              else if flags.verbose && character = '#' then
                skipLine
                readSequence fuel flags mayFlag items
              else
                match character with
                | '[' =>
                    let test ← readSet flags
                    readSequence fuel flags mayFlag (testItem test :: items)
                | '*' => readSequence fuel flags mayFlag (← repeatLast items 0 none)
                | '+' => readSequence fuel flags mayFlag (← repeatLast items 1 none)
                | '?' => readSequence fuel flags mayFlag (← repeatLast items 0 (some 1))
                | '{' =>
                    match ← readBounds with
                    | some (least, most) =>
                        readSequence fuel flags mayFlag (← repeatLast items least most)
                    | none =>
                        readSequence fuel flags mayFlag
                          (testItem (pointTest flags '{'.toNat) :: items)
                | '.' => readSequence fuel flags mayFlag (testItem (dotTest flags) :: items)
                | '^' =>
                    let position := if flags.multiLine then Anchor.lineStart else .textStart
                    readSequence fuel flags mayFlag
                      ({ node := .anchor position, width := .zero, kind := .anchor } :: items)
                | '$' =>
                    let position := if flags.multiLine then Anchor.lineEnd else .lastLineEnd
                    readSequence fuel flags mayFlag
                      ({ node := .anchor position, width := .zero, kind := .anchor } :: items)
                | '(' =>
                    let start ←
                      if ← accept '?' then readExtension flags
                      else pure (GroupStart.capture none)
                    match start with
                    | .globalFlags added =>
                        if mayFlag && items.isEmpty then
                          modify fun progress =>
                            { progress with flags := progress.flags.union added }
                          readSequence fuel (flags.union added) mayFlag items
                        else fail
                    | .done none => readSequence fuel flags mayFlag items
                    | .done (some item) => readSequence fuel flags mayFlag (item :: items)
                    | start =>
                        let item ← readGroup fuel flags start
                        readSequence fuel flags mayFlag (item :: items)
                | _ =>
                    readSequence fuel flags mayFlag
                      (testItem (pointTest flags character.toNat) :: items)

/-- The rest of a group whose start has been read. -/
def readGroup : Nat → Flags → GroupStart → Reading Item
  | 0, _, _ => fail
  | fuel + 1, flags, start => do
      match start with
      | .capture name =>
          let index ← openGroup name
          let part ← readChoice fuel flags false []
          require ')'
          closeGroup index part.width.capped
          return { node := .capture index part.node, width := part.width.capped }
      | .plainGroup =>
          let part ← readChoice fuel flags false []
          require ')'
          return { node := part.node, width := part.width.capped }
      | .flagged added removed =>
          let part ← readChoice fuel (flags.within added removed) false []
          require ')'
          return { node := part.node, width := part.width.capped }
      | .atomic =>
          let part ← readChoice fuel flags false []
          require ')'
          return { node := .atomic part.node, width := part.width.capped }
      | .look behind negative =>
          let outer := (← get).lookBehindGroups
          if behind && outer.isNone then
            modify fun progress =>
              { progress with lookBehindGroups := some progress.groups.length }
          let part ← readChoice fuel flags false []
          if behind && outer.isNone then
            modify fun progress => { progress with lookBehindGroups := none }
          require ')'
          if behind then lookBehindItem negative { part with width := part.width.capped }
          else return { node := .lookAhead negative part.node, width := .zero }
      | .condition index =>
          let yes ← readSequence fuel flags false []
          let no ←
            if ← accept '|' then readSequence fuel flags false []
            else pure ⟨.empty, .zero⟩
          require ')'
          return { node := .conditional index yes.node no.node, width := yes.width.either no.width }
      | .globalFlags _ => fail
      | .done _ => fail

end

/-- The whole of a written pattern. -/
def readAll : Reading Node := do
  moveTo (← get).rest
  let fuel := 4 * (← get).rest.length + 4
  let part ← readChoice fuel {} true []
  let progress ← get
  if progress.flags.ascii && progress.flags.unicode then throw .conflictingFlags
  if !progress.rest.isEmpty then fail
  if progress.conditions.any fun index => progress.groups.length < index then fail
  if progress.badLookBehind then fail
  if progress.flags.noRepetition && progress.repeats then fail
  return part.node

/-- The pattern that a text writes; `flags` hold for the whole of it. -/
def read (flags : Flags) (written : String) : Except PatternFault Node :=
  let (tokens, dangling) := Token.ofCharacters written.toList
  (readAll.run { rest := tokens, dangling, flags }).map Prod.fst

end Tabular.Pattern
