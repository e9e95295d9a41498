import Tabular.Number.Written
import Tabular.Text.Case

namespace Tabular.Journal

/-!
# Levels of records

The level of a record is a number, and some numbers have names. Names are looked up without regard
to case.
-/

/-- The level from which records are worth a warning. -/
def warningLevel : Int := 30

/-- The level of records that are of interest in general. -/
def infoLevel : Int := 20

/-- The level of records that help to find mistakes. -/
def debugLevel : Int := 10

/-- The named levels. Where a level has two names, the first one is shown. -/
def levelNames : List (String × Int) :=
  [("CRITICAL", 50), ("FATAL", 50), ("ERROR", 40), ("WARNING", warningLevel),
    ("WARN", warningLevel), ("INFO", infoLevel), ("DEBUG", debugLevel), ("NOTSET", 0)]

/-- The level with a name; other names stand for the level of general interest. -/
def levelOfName (name : String) : Int :=
  ((levelNames.find? fun entry => entry.1 == Text.upper name).map Prod.snd).getD infoLevel

/-- How a level is shown. -/
def levelName (level : Int) : String :=
  ((levelNames.find? fun entry => entry.2 == level).map Prod.fst).getD
    ("Level " ++ Decimal.ofInt level)

end Tabular.Journal
