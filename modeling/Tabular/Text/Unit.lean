namespace Tabular.Text

/-!
# Sixteen-bit units

The units that texts are exchanged in. A code point above the basic plane has two of them, the
halves of a pair of surrogates, and any other one is its own unit. A surrogate that stands alone is
a code point too, but not a character. Units are escaped with four hexadecimal digits.
-/

/-- The first half of a pair of surrogates. -/
def isHighSurrogate (unit : Nat) : Bool :=
  0xd800 ≤ unit && unit ≤ 0xdbff

/-- The second half of a pair of surrogates. -/
def isLowSurrogate (unit : Nat) : Bool :=
  0xdc00 ≤ unit && unit ≤ 0xdfff

/-- One half of a pair of surrogates. -/
def isSurrogate (unit : Nat) : Bool :=
  isHighSurrogate unit || isLowSurrogate unit

/-- The code point that a pair of surrogates stands for. -/
def joinedPoint (high low : Nat) : Nat :=
  0x10000 + (high - 0xd800) * 1024 + (low - 0xdc00)

/-- The units of a code point. -/
def pointUnits (point : Nat) : List Nat :=
  if point < 0x10000 then [point]
  else [0xd800 + (point - 0x10000) / 1024, 0xdc00 + (point - 0x10000) % 1024]

/-- The code points that units stand for: pairs are joined, and a half without the other is kept. -/
def pointsOfUnits : List Nat → List Nat
  | high :: low :: rest =>
      if isHighSurrogate high && isLowSurrogate low then joinedPoint high low :: pointsOfUnits rest
      else high :: pointsOfUnits (low :: rest)
  | rest => rest

/-- The units of a text. -/
def units (text : String) : List Nat :=
  text.toList.flatMap fun character => pointUnits character.toNat

/-- The value of a hexadecimal digit. -/
def hexDigitValue? (character : Char) : Option Nat :=
  let point := character.toNat
  if 48 ≤ point ∧ point ≤ 57 then some (point - 48)
  else if 97 ≤ point ∧ point ≤ 102 then some (point - 87)
  else if 65 ≤ point ∧ point ≤ 70 then some (point - 55)
  else none

end Tabular.Text
