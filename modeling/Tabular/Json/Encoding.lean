import Tabular.Json.Reader

namespace Tabular.Json

/-!
# Encodings of documents

A document arrives as the bytes of a text in UTF-8, which may be the bytes of another text in
another encoding: where the first zeros stand tells how the bytes are read. Characters in UTF-16 and
UTF-32 may be surrogates without their other half, and so may escapes. A text whose surrogates all
come in pairs stands for characters alone.
-/

/-- The encodings that documents are read in. -/
inductive Encoding where
  | utf8
  | utf16 (bigEndian : Bool)
  | utf32 (bigEndian : Bool)

/-- The encoding that the first bytes show. -/
def Encoding.ofBytes : List Nat → Encoding
  | 0 :: 0 :: _ :: _ :: _ => .utf32 true
  | 0 :: _ :: _ :: _ :: _ => .utf16 true
  | _ :: 0 :: 0 :: 0 :: _ => .utf32 false
  | _ :: 0 :: _ :: _ :: _ => .utf16 false
  | [0, _] => .utf16 true
  | [_, 0] => .utf16 false
  | _ => .utf8

/-- The units of two bytes each; nothing when a byte is left over. -/
def shortUnits? (bigEndian : Bool) : List Nat → Option (List Nat)
  | [] => some []
  | first :: second :: rest =>
      (shortUnits? bigEndian rest).map fun units =>
        (if bigEndian then first * 256 + second else second * 256 + first) :: units
  | _ => none

/-- The units of four bytes each; nothing when bytes are left over. -/
def longUnits? (bigEndian : Bool) : List Nat → Option (List Nat)
  | [] => some []
  | first :: second :: third :: fourth :: rest =>
      (longUnits? bigEndian rest).map fun units =>
        (if bigEndian then ((first * 256 + second) * 256 + third) * 256 + fourth
          else ((fourth * 256 + third) * 256 + second) * 256 + first) :: units
  | _ => none

/-- The bytes of a text in UTF-8. -/
def bytesOf (text : String) : List Nat :=
  (text.toList.flatMap String.utf8EncodeChar).map UInt8.toNat

/-- The code points of a text, without the mark that may stand before it. -/
def unmarkedPoints (text : String) : List Nat :=
  match text.toList.map Char.toNat with
  | 0xfeff :: rest => rest
  | points => points

/-- The code points of the document that a text arrives as; nothing when its bytes are none. -/
def arrivingPoints? (text : String) : Option (List Nat) :=
  let bytes := bytesOf text
  match Encoding.ofBytes bytes with
  | .utf8 => some (unmarkedPoints text)
  | .utf16 bigEndian => (shortUnits? bigEndian bytes).map Text.pointsOfUnits
  | .utf32 bigEndian => (longUnits? bigEndian bytes).filter fun points => points.all (· ≤ 0x10ffff)

/--
Every escape of a surrogate among the characters is one half of a pair. `awaits` tells that the
first half stands right before them.
-/
def escapesPairs (awaits : Bool) : List Char → Bool
  | '\\' :: 'u' :: a :: b :: c :: d :: rest =>
      match hexUnit? [a, b, c, d] with
      | some unit =>
          Text.isLowSurrogate unit == awaits && escapesPairs (Text.isHighSurrogate unit) rest
      | none => !awaits && escapesPairs false rest
  | '\\' :: _ :: rest => !awaits && escapesPairs false rest
  | _ :: rest => !awaits && escapesPairs false rest
  | [] => !awaits

/-- No surrogate stands alone in the document that a text arrives as, escaped or not. -/
def hasPairs (text : String) : Bool :=
  (arrivingPoints? text).all fun points =>
    points.all (!Text.isSurrogate ·) && escapesPairs false (points.map Char.ofNat)

/-- The text of a document as it arrives. Its surrogates come in pairs. -/
structure ArrivingText where
  text : String
  hasPairs : Json.hasPairs text

/-- What is wrong with a text that is no document. -/
inductive Unreadable where
  /-- The bytes are those of no text. -/
  | undecodable
  /-- The text stops being a document at a position. -/
  | malformed (position : Nat)

/-- The document that a text arrives as. -/
def ArrivingText.read (arriving : ArrivingText) : Except Unreadable Json :=
  match arrivingPoints? arriving.text with
  | none => .error .undecodable
  | some points => (Json.read (String.ofList (points.map Char.ofNat))).mapError .malformed

end Tabular.Json
