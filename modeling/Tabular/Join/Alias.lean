import Tabular.Assoc
import Tabular.Number.Written
import Tabular.Text.Case

namespace Tabular

/-!
# Short names of tables

The columns of a table are told apart by an alias, which is the name of the table when none is set.
The alias that is set by default is short: the name without the file extension when that is short
enough, and a numbered name otherwise.
-/

namespace Alias

/-- The file extensions that are left out, backwards. -/
def extensions : List (List Char) :=
  ["vsc.".toList, "xslx.".toList, "slx.".toList, "nosj.".toList]

/-- The letter that a character stands for in an extension; the long s stands for an s. -/
def extensionLetter (character : Char) : Char :=
  if character.toNat = 383 then 's' else Text.simpleLower character

/-- A name, backwards, without its extension. -/
def dropExtension (backwards : List Char) : List Char :=
  match
    extensions.find? fun extension =>
      (backwards.take extension.length).map extensionLetter == extension with
  | some extension => backwards.drop extension.length
  | none => backwards

/-- A name without its extension, which may stand before a line break that ends the name. -/
def baseName (name : List Char) : List Char :=
  match name.reverse with
  | '\n' :: rest => ('\n' :: dropExtension rest).reverse
  | backwards => (dropExtension backwards).reverse

/-- A character of an alias: other characters than ASCII letters and digits become underscores. -/
def plainCharacter (character : Char) : Char :=
  if character.isAlphanum then character else '_'

/-- The greatest length of an alias that is made from a name. -/
def longest : Nat := 6

/-- The short name of a table at a place among the tables. -/
def default (name : String) (index : Int) : String :=
  let base := (baseName name.toList).map plainCharacter
  if base.length ≤ longest then String.ofList base else "t" ++ Decimal.ofInt (index + 1)

/-- The name that stands for a table: its alias, or its own name when it has none. -/
def nameIn (aliases : Assoc String) (name : String) : String :=
  match aliases.find? name with
  | some shown => if shown = "" then name else shown
  | none => name

end Alias

end Tabular
