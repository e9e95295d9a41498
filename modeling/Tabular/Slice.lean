namespace Tabular

/-!
# Slices

Parts of a list between two places. A negative place counts from the end, and places outside the
list are moved to its ends.
-/

namespace Slice

variable {α : Type}

/-- A place in a list of the given length, counted from the end when it is negative. -/
def place (length : Nat) (position : Int) : Nat :=
  if position < 0 then (length + position).toNat else min position.toNat length

/-- The elements before a place. -/
def before (stop : Int) (elements : List α) : List α :=
  elements.take (place elements.length stop)

/-- The elements before a place if one is given, and all of them otherwise. -/
def upTo (stop : Option Int) (elements : List α) : List α :=
  match stop with
  | some stop => before stop elements
  | none => elements

/-- The elements from a place on. -/
def startingAt (start : Int) (elements : List α) : List α :=
  elements.drop (place elements.length start)

/-- The elements from one place on and before another. -/
def between (start stop : Int) (elements : List α) : List α :=
  let first := place elements.length start
  (elements.drop first).take (place elements.length stop - first)

end Slice

end Tabular
