import Tabular.Json.Basic

namespace Tabular.Json

/-!
# Parts of documents

The parts of a document can be replaced one after the other: the parts of a part before the part
itself, and earlier elements and members before later ones.

Documents that are exchanged hold finite numbers only. A document either has nothing in the place of
its other numbers, or it is not exchanged at all.
-/

variable {m : Type → Type} [Monad m]

mutual

/-- The document with every part replaced. -/
def mapParts (replace : Json → m Json) : Json → m Json
  | .array elements => do
      replace (.array (← mapElements replace elements))
  | .object members => do
      replace (.object (← mapMembers replace members))
  | document => replace document

/-- The elements with every part replaced. -/
def mapElements (replace : Json → m Json) : List Json → m (List Json)
  | [] => return []
  | element :: rest => do
      let element ← mapParts replace element
      return element :: (← mapElements replace rest)

/-- The members with every part replaced. -/
def mapMembers (replace : Json → m Json) : List (String × Json) → m (List (String × Json))
  | [] => return []
  | (key, value) :: rest => do
      let value ← mapParts replace value
      return (key, value) :: (← mapMembers replace rest)

end

/-! ## Numbers that are not finite -/

mutual

/-- All numbers of the document are finite. -/
def isFinite : Json → Bool
  | .float value => value.isFinite
  | .array elements => areFinite elements
  | .object members => areFiniteMembers members
  | _ => true

/-- All numbers of several documents are finite. -/
def areFinite : List Json → Bool
  | [] => true
  | element :: rest => isFinite element && areFinite rest

/-- All numbers of several members are finite. -/
def areFiniteMembers : List (String × Json) → Bool
  | [] => true
  | (_, value) :: rest => isFinite value && areFiniteMembers rest

end

/-- Nothing in the place of a number that is not finite. -/
def finitePart : Json → Json
  | .float value => if value.isFinite then .float value else .null
  | part => part

/-- The document with nothing in the place of numbers that are not finite. -/
def finite (document : Json) : Json :=
  mapParts (m := Id) finitePart document

end Tabular.Json
