import Tabular.Pattern.Syntax

namespace Tabular.Pattern

/-!
# Matching

Backtracking search for a pattern in a text. Matching passes on what still has to match after the
pattern, so the first alternative that lets the rest match wins. Every function recurses on the
pattern; a repetition recurses on a budget besides, which the number of characters left bounds,
because a repetition that has met its least count goes on only from a position it has not just been
at.
-/

/-- Where a match has come to, and the spans captured so far, the latest first. -/
structure State where
  position : Nat
  captures : List (Nat × Nat × Nat)

/-- What still has to match, from a state on. -/
abbrev Continuation := State → Option State

/-- The span that a group has captured last. -/
def State.captured? (state : State) (index : Nat) : Option (Nat × Nat) :=
  (state.captures.find? fun entry => entry.1 == index).map Prod.snd

/-- A code point satisfies an entry of a set; `lowered` is its lower-case form. -/
def SetItem.holds (item : SetItem) (test : CharTest) (lowered : Nat) : Bool :=
  match item with
  | .point value =>
      if test.mode = .folded then
        let low := lowerPoint .folded value
        if test.severalItems && 0xffff < low then lowered == value
        else lowered == low || (kin low).contains lowered
      else lowered == lowerPoint test.mode value
  | .range low high =>
      let within (point : Nat) := low ≤ point && point ≤ high
      let inLowPlane :=
        if test.mode = .folded then
          (lowered :: kin lowered).any fun relative =>
            (lowerPreimages .folded relative).any fun source => within source && source ≤ 0xffff
        else (lowerPreimages test.mode lowered).any within
      inLowPlane ||
        (test.mode ≠ .exact && 0xffff < high && (within lowered || within (upperPoint lowered)))
  | .charClass named complement =>
      named.holds test.ascii (Char.ofNat lowered) != complement

/-- A character satisfies a test. -/
def CharTest.holds (test : CharTest) (character : Char) : Bool :=
  let lowered := lowerPoint test.mode character.toNat
  (test.items.any fun item => item.holds test lowered) != test.complement

/-- The character at a position is a line break. -/
def isBreakAt (text : Array Char) (position : Nat) : Bool :=
  text[position]? == some '\n'

/-- The character at a position belongs to a word. -/
def isWordAt (text : Array Char) (ascii : Bool) (position : Nat) : Bool :=
  match text[position]? with
  | some character => CharClass.word.holds ascii character
  | none => false

/-- A word starts or ends at a position. -/
def isBoundary (text : Array Char) (ascii : Bool) (position : Nat) : Bool :=
  let before := if position = 0 then false else isWordAt text ascii (position - 1)
  before != isWordAt text ascii position

/-- A position is one that an anchor asks for. -/
def Anchor.holds (anchor : Anchor) (text : Array Char) (position : Nat) : Bool :=
  match anchor with
  | .textStart => position == 0
  | .lineStart => position == 0 || isBreakAt text (position - 1)
  | .textEnd => position == text.size
  | .lastLineEnd =>
      position == text.size || (position + 1 == text.size && isBreakAt text position)
  | .lineEnd => position == text.size || isBreakAt text position
  | .wordBoundary ascii => text.size != 0 && isBoundary text ascii position
  | .wordInterior ascii => text.size != 0 && !isBoundary text ascii position

/-- The characters of a span stand again at a position, up to case as the mode says. -/
def repeatsAt (text : Array Char) (mode : CaseMode) (start length position : Nat) : Bool :=
  (List.range length).all fun offset =>
    match text[start + offset]?, text[position + offset]? with
    | some left, some right =>
        lowerPoint mode left.toNat == lowerPoint mode right.toNat
    | _, _ => false

/-- The count may still grow. -/
def mayGrow (count : Nat) : Option Nat → Bool
  | none => true
  | some most => count < most

/--
A repetition that has matched `count` times. `last` is the position at which it went on last of its
own accord; it never goes on from there again.
-/
def repeatLoop (step : State → Continuation → Option State) (greed : Greed) (least : Nat)
    (most : Option Nat) :
    Nat → Nat → Option Nat → State → Continuation → Option State
  | 0, _, _, state, rest => rest state
  | budget + 1, count, last, state, rest =>
      if count < least then
        step state fun next => repeatLoop step greed least most budget (count + 1) last next rest
      else
        let goesOn := mayGrow count most && last != some state.position
        let again (_ : Unit) : Option State :=
          if goesOn then
            step state fun next =>
              repeatLoop step greed least most budget (count + 1) (some state.position) next rest
          else none
        match greed with
        | .lazy => (rest state).orElse again
        | _ => (again ()).orElse fun _ => rest state

/-- A possessive repetition: each pass takes the first way in which its body matches. -/
def possessiveLoop (step : State → Continuation → Option State) (least : Nat)
    (most : Option Nat) : Nat → Nat → Option Nat → State → Option State
  | 0, _, _, state => some state
  | budget + 1, count, last, state =>
      if count < least then
        (step state some).bind fun next =>
          possessiveLoop step least most budget (count + 1) last next
      else if mayGrow count most && last != some state.position then
        match step state some with
        | some next => possessiveLoop step least most budget (count + 1) (some state.position) next
        | none => some state
      else some state

/-- How many passes a repetition can make from a position. -/
def repeatBudget (text : Array Char) (least : Nat) (state : State) : Nat :=
  least + (text.size - state.position) + 2

/-- The pattern matches at a state so that the rest matches after it. -/
def Node.run (text : Array Char) : Node → State → Continuation → Option State
  | .empty, state, rest => rest state
  | .char test, state, rest =>
      match text[state.position]? with
      | some character =>
          if test.holds character then rest { state with position := state.position + 1 } else none
      | none => none
  | .anchor position, state, rest =>
      if position.holds text state.position then rest state else none
  | .sequence first second, state, rest =>
      first.run text state fun next => second.run text next rest
  | .choice first second, state, rest =>
      (first.run text state rest).orElse fun _ => second.run text state rest
  | .capture index body, state, rest =>
      body.run text state fun next =>
        rest { next with captures := (index, state.position, next.position) :: next.captures }
  | .repetition greed least most body, state, rest =>
      let step := fun current after => body.run text current after
      let budget := repeatBudget text least state
      if greed = .possessive then
        (possessiveLoop step least most budget 0 none state).bind rest
      else repeatLoop step greed least most budget 0 none state rest
  | .lookAhead negative body, state, rest =>
      match body.run text state some with
      | some found =>
          if negative then none else rest { state with captures := found.captures }
      | none => if negative then rest state else none
  | .lookBehind negative width body, state, rest =>
      let found :=
        if width ≤ state.position then
          body.run text { state with position := state.position - width } some
        else none
      match found with
      | some found =>
          if negative then none else rest { state with captures := found.captures }
      | none => if negative then rest state else none
  | .atomic body, state, rest => (body.run text state some).bind rest
  | .backReference mode index, state, rest =>
      match state.captured? index with
      | some (start, stop) =>
          if repeatsAt text mode start (stop - start) state.position then
            rest { state with position := state.position + (stop - start) }
          else none
      | none => none
  | .conditional index yes no, state, rest =>
      if (state.captured? index).isSome then yes.run text state rest else no.run text state rest

/-- The pattern matches somewhere in the text. -/
def Node.search (node : Node) (text : String) : Bool :=
  let characters := text.toList.toArray
  (List.range (characters.size + 1)).any fun start =>
    (node.run characters ⟨start, []⟩ some).isSome

/-- The pattern matches from the start of the text. -/
def Node.matchesStart (node : Node) (text : String) : Bool :=
  (node.run text.toList.toArray ⟨0, []⟩ some).isSome

end Tabular.Pattern
