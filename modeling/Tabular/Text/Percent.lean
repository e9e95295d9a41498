import Tabular.Text.Unit

namespace Tabular.Text

/-!
# Percent escapes

Texts in addresses hold bytes as a percent sign and two hexadecimal digits. Escaped bytes next to
one another are read together as UTF-8; where they are none, every byte becomes the replacement
character. A percent sign that no two digits follow stands for itself.
-/

/-- The byte of an escape at the front. -/
def escapedByte? : List Char → Option UInt8
  | '%' :: high :: low :: _ => do
      let high ← hexDigitValue? high
      let low ← hexDigitValue? low
      some (UInt8.ofNat (16 * high + low))
  | _ => none

/-- The characters that bytes stand for. -/
def decodedBytes (bytes : List UInt8) : List Char :=
  match String.fromUTF8? bytes.toByteArray with
  | some text => text.toList
  | none => bytes.map fun _ => Char.ofNat 0xfffd

/-- The characters without escapes, after bytes that have been collected in reverse. -/
def decodeFrom : Nat → List UInt8 → List Char → List Char
  | 0, bytes, rest => decodedBytes bytes.reverse ++ rest
  | _ + 1, bytes, [] => decodedBytes bytes.reverse
  | fuel + 1, bytes, character :: rest =>
      match escapedByte? (character :: rest) with
      | some byte => decodeFrom fuel (byte :: bytes) (rest.drop 2)
      | none => decodedBytes bytes.reverse ++ character :: decodeFrom fuel [] rest

/-- The text without escapes. -/
def percentDecoded (text : String) : String :=
  String.ofList (decodeFrom text.length [] text.toList)

end Tabular.Text
