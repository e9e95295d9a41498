import Tabular.Pattern.Matcher
import Tabular.Pattern.Reader
import Tabular.Typing.ColumnType

namespace Tabular

/-!
# Kinds of columns

Beside its type a column may have a kind, such as e-mail addresses or telephone numbers. The kind of
a cell is the first one whose pattern its literal text matches; the kind of a column is the one that
most of its cells have, if these are enough.
-/

/-- The kind of a cell or a column. A table may be given with kinds of other names. -/
inductive SmartKind where
  | email
  | phone
  | url
  | currency
  | date
  | percentage
  | zipcode
  | none
  | other (name : String)
deriving DecidableEq, Inhabited

namespace SmartKind

/-- The kinds that have a pattern, in the order in which they are tried. -/
def tried : List SmartKind :=
  [.email, .phone, .url, .currency, .date, .percentage, .zipcode]

/-- The name of a kind. -/
def name : SmartKind → String
  | .email => "email"
  | .phone => "phone"
  | .url => "url"
  | .currency => "currency"
  | .date => "date"
  | .percentage => "percentage"
  | .zipcode => "zipcode"
  | .none => "none"
  | .other name => name

/-- The kind with a name. -/
def ofName (name : String) : SmartKind :=
  ((SmartKind.none :: tried).find? fun kind => kind.name == name).getD (.other name)

/-- The written pattern of a kind. -/
def writtenPattern : SmartKind → String
  | .email => "^[a-zA-Z0-9._%+-]+@[a-zA-Z0-9.-]+\\.[a-zA-Z]\x7b2,\x7d$"
  | .phone =>
      "^[+]?[(]?[0-9]\x7b1,3\x7d[)]?[-\\s.]?[(]?[0-9]\x7b1,4\x7d[)]?[-\\s.]?" ++
        "[0-9]\x7b1,4\x7d[-\\s.]?[0-9]\x7b1,9\x7d$"
  | .url => "^(https?://)?([\\da-z.-]+)\\.([a-z.]\x7b2,6\x7d)[/\\w .-]*/?$"
  | .currency =>
      "^[$€£¥₹]?\\s?-?\\d\x7b1,3\x7d(,\\d\x7b3\x7d)*(\\.\\d\x7b1,2\x7d)?$|" ++
        "^-?\\d+(\\.\\d\x7b1,2\x7d)?\\s?[$€£¥₹]?$"
  | .date =>
      "^(\\d\x7b4\x7d[-/]\\d\x7b1,2\x7d[-/]\\d\x7b1,2\x7d|" ++
        "\\d\x7b1,2\x7d[-/]\\d\x7b1,2\x7d[-/]\\d\x7b2,4\x7d)" ++
        "(\\s+\\d\x7b1,2\x7d:\\d\x7b2\x7d(:\\d\x7b2\x7d)?\\s*(AM|PM|am|pm)?)?$"
  | .percentage => "^-?\\d+(\\.\\d+)?%$"
  | .zipcode =>
      "^\\d\x7b5\x7d(-\\d\x7b4\x7d)?$|^[A-Z]\x7b1,2\x7d\\d[A-Z\\d]?\\s?\\d[A-Z]\x7b2\x7d$"
  | _ => "(?!)"

/-- Kinds whose pattern ignores the case of letters. -/
def ignoresCase : SmartKind → Bool
  | .url => true
  | .zipcode => true
  | _ => false

/-- The pattern of a kind. -/
def pattern (kind : SmartKind) : Pattern.Node :=
  match Pattern.read { ascii := true, ignoreCase := kind.ignoresCase } kind.writtenPattern with
  | .ok node => node
  | .error _ => .empty

/-- The kinds with their patterns. -/
def patterns : List (SmartKind × Pattern.Node) :=
  tried.map fun kind => (kind, kind.pattern)

end SmartKind

/-- The kind of one cell. -/
def Cell.smartKind (cell : Cell) : SmartKind :=
  if cell.isBlank then .none
  else
    let text := Text.trim cell.literal
    ((SmartKind.patterns.find? fun entry => entry.2.matchesStart text).map Prod.fst).getD .none

/-- The kind of a column, and how many of its cells have it. -/
structure SmartTypeInfo where
  kind : SmartKind := .none
  validCount : Int := 0
  invalidCount : Int := 0
  validPercent : Int := 0
deriving DecidableEq, Inhabited

/-- How often each kind occurs, in the order of the first occurrences. -/
def countKinds (kinds : List SmartKind) : List (SmartKind × Nat) :=
  kinds.foldl
    (fun counts kind =>
      if counts.any fun entry => entry.1 == kind then
        counts.map fun entry => if entry.1 = kind then (kind, entry.2 + 1) else entry
      else counts ++ [(kind, 1)])
    []

/-- The count reaches the threshold as a share of the total. -/
def reachesShare (threshold : Amount) (count total : Nat) : Outcome Bool := do
  match ← (Amount.whole total).mul threshold with
  | .whole least => .ok (decide (least ≤ count))
  | .real least => .ok (least.le (Binary64.ofNat count))

/-- The kind with the highest count that reaches the threshold, the first of several. -/
def dominantKind? (threshold : Amount) (total : Nat) (counts : List (SmartKind × Nat)) :
    Outcome (Option (SmartKind × Nat)) :=
  counts.foldlM
    (fun best entry => do
      let most := (best.map Prod.snd).getD 0
      if most < entry.2 then
        if ← reachesShare threshold entry.2 total then .ok (some entry) else .ok best
      else .ok best)
    none

/-- The percentage of a part of a total, rounded half up. -/
def percentOf (part total : Nat) : Outcome Int :=
  (((Binary64.ofNat part).div (Binary64.ofNat total)).mul (Binary64.ofNat 100)).roundToWhole

/-- The kind of a column with the given cells. -/
def smartTypeOf (threshold : Amount) (cells : List Cell) : Outcome SmartTypeInfo := do
  let filled := cells.filter fun cell => !cell.isBlank
  let counts := countKinds ((filled.map Cell.smartKind).filter (· ≠ .none))
  match ← dominantKind? threshold filled.length counts with
  | none => .ok {}
  | some (kind, valid) =>
      .ok
        { kind
          validCount := valid
          invalidCount := (filled.length : Int) - valid
          validPercent := ← percentOf valid filled.length }

/-- The kinds of the columns. -/
def detectSmartTypes (threshold : Amount) (rows : List Row) : Outcome (Assoc SmartTypeInfo) :=
  describeColumns (fun column => smartTypeOf threshold (rows.map fun row => row.cell column))
    (columnsOf rows)

end Tabular
