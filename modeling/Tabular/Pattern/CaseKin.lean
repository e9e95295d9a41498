import Tabular.Text.Case

namespace Tabular.Pattern

/-!
# Characters that differ only in case

When case is ignored a pattern compares the lower-case forms of characters. A few lower-case letters
also stand for one another, because they share an upper-case form; they are listed here.
-/

/-- Lower-case code points that stand for others when case is ignored. -/
def kinTable : List (Nat × List Nat) :=
  [
   (105, [305]), (115, [383]), (181, [956]), (305, [105]), (383, [115]), (837, [953, 8126]),
   (912, [8147]), (944, [8163]), (946, [976]), (949, [1013]), (952, [977]), (953, [837, 8126]),
   (954, [1008]), (956, [181]), (960, [982]), (961, [1009]), (962, [963]), (963, [962]),
   (966, [981]), (976, [946]), (977, [952]), (981, [966]), (982, [960]), (1008, [954]),
   (1009, [961]), (1013, [949]), (1074, [7296]), (1076, [7297]), (1086, [7298]), (1089, [7299]),
   (1090, [7300, 7301]), (1098, [7302]), (1123, [7303]), (7296, [1074]), (7297, [1076]),
   (7298, [1086]), (7299, [1089]), (7300, [1090, 7301]), (7301, [1090, 7300]), (7302, [1098]),
   (7303, [1123]), (7304, [42571]), (7777, [7835]), (7835, [7777]), (8126, [837, 953]),
   (8147, [912]), (8163, [944]), (42571, [7304]), (64261, [64262]), (64262, [64261])]

/-- The code points that stand for a lower-case code point besides itself. -/
def kin (point : Nat) : List Nat :=
  ((kinTable.find? fun entry => entry.1 == point).map Prod.snd).getD []

/-- How a pattern treats the case of letters. -/
inductive CaseMode where
  | exact
  | asciiFolded
  | folded
deriving DecidableEq, Repr

/-- The lower-case form of a code point by itself. -/
def lowerPoint (mode : CaseMode) (point : Nat) : Nat :=
  match mode with
  | .exact => point
  | .asciiFolded => if 65 ≤ point ∧ point ≤ 90 then point + 32 else point
  | .folded => if point.isValidChar then (Text.simpleLower (Char.ofNat point)).toNat else point

/-- The first character of the upper-case form of a code point. -/
def upperPoint (point : Nat) : Nat :=
  ((Text.upperCharacter (Char.ofNat point)).headD (Char.ofNat point)).toNat

/-- The code points whose lower-case form is the given one. -/
def lowerPreimages (mode : CaseMode) (point : Nat) : List Nat :=
  match mode with
  | .exact => [point]
  | .asciiFolded =>
      if 97 ≤ point ∧ point ≤ 122 then [point, point - 32]
      else if 65 ≤ point ∧ point ≤ 90 then []
      else [point]
  | .folded =>
      let fromRuns :=
        Text.lowerRuns.filterMap fun run =>
          let source := ((point : Int) - run.offset).toNat
          if run.first ≤ source ∧ source ≤ run.last ∧ (source - run.first) % run.step = 0 then
            some source
          else none
      (point :: 0x130 :: fromRuns).filter fun source => lowerPoint mode source == point

end Tabular.Pattern
