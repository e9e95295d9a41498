import Tabular.Typing.ColumnType

namespace Tabular

/-!
# Filter operators

The comparisons that a condition can make, their names, and which of them are offered for which type
of column. Some operators can also be spelled in ASCII.
-/

/-- A comparison of texts. -/
inductive TextOperator where
  | is
  | isNot
  | contains
  | doesNotContain
  | startsWith
  | endsWith
  | isOneOf
  | isNotOneOf
  | matchesPattern
deriving DecidableEq

/-- A comparison of numbers. -/
inductive NumberOperator where
  | equal
  | notEqual
  | less
  | greater
  | atMost
  | atLeast
deriving DecidableEq

/-- A comparison of instants. -/
inductive DateOperator where
  | isBefore
  | isAfter
deriving DecidableEq

/-- What a condition can ask of a cell. -/
inductive Operator where
  | isEmpty
  | isNotEmpty
  | onText (operator : TextOperator)
  | onNumber (operator : NumberOperator)
  | onDate (operator : DateOperator)
deriving DecidableEq

namespace Operator

/-- The operators that ask for the presence of a value. -/
def forPresence : List Operator :=
  [.isEmpty, .isNotEmpty]

/-- The operators offered for texts. -/
def forTexts : List Operator :=
  [.onText .is, .onText .isNot, .onText .contains, .onText .doesNotContain, .onText .startsWith,
    .onText .endsWith, .onText .isOneOf, .onText .isNotOneOf, .isEmpty, .isNotEmpty,
    .onText .matchesPattern]

/-- The operators offered for numbers. -/
def forNumbers : List Operator :=
  [.onNumber .equal, .onNumber .notEqual, .onNumber .less, .onNumber .greater, .onNumber .atMost,
    .onNumber .atLeast, .isEmpty, .isNotEmpty]

/-- The operators offered for dates. -/
def forDates : List Operator :=
  [.onDate .isBefore, .onDate .isAfter, .isEmpty, .isNotEmpty]

/-- All operators. -/
def all : List Operator :=
  forTexts ++ forNumbers ++ forDates

/-- The name of an operator. -/
def name : Operator → String
  | .isEmpty => "is empty"
  | .isNotEmpty => "is not empty"
  | .onText .is => "is"
  | .onText .isNot => "is not"
  | .onText .contains => "contains"
  | .onText .doesNotContain => "does not contain"
  | .onText .startsWith => "startswith"
  | .onText .endsWith => "endswith"
  | .onText .isOneOf => "in"
  | .onText .isNotOneOf => "not in"
  | .onText .matchesPattern => "regexp"
  | .onNumber .equal => "="
  | .onNumber .notEqual => "≠"
  | .onNumber .less => "<"
  | .onNumber .greater => ">"
  | .onNumber .atMost => "≤"
  | .onNumber .atLeast => "≥"
  | .onDate .isBefore => "is before"
  | .onDate .isAfter => "is after"

/-- The name that an ASCII spelling stands for; other names stand for themselves. -/
def normalizeName (written : String) : String :=
  if written = "!=" then "≠"
  else if written = "<=" then "≤"
  else if written = ">=" then "≥"
  else if written = "==" then "="
  else written

/-- The operator with a name or an ASCII spelling. -/
def ofName? (written : String) : Option Operator :=
  all.find? fun operator => operator.name == normalizeName written

/-- The operators offered for a type; types of other names are treated as texts. -/
def offeredFor : ColumnType → List Operator
  | .number => forNumbers
  | .date => forDates
  | _ => forTexts

end Operator

end Tabular
