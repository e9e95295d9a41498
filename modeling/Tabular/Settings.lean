import Tabular.Number.Amount

namespace Tabular

/-!
# Settings

The limits, thresholds and texts that the analyses use, with their defaults. Every analysis takes
the settings as an argument.
-/

/-- The name of the service. -/
def serviceName : String := "GridSight"

/-- What can be set. -/
structure Settings where
  /-- How many rows are looked at to find the type of a column. -/
  typeSampleRows : Int := 10
  /-- The share of cells that a kind has to cover to be the kind of a column. -/
  smartTypeThreshold : Amount := .real (Binary64.ofRatio false 1 2)
  /-- The least number of numbers for which outliers are looked for. -/
  outlierMinValues : Int := 4
  /-- How many interquartile ranges beyond the quartiles the bounds lie. -/
  iqrMultiplier : Amount := .real (Binary64.ofRatio false 3 2)
  pivotDecimals : Int := 2
  previewRows : Int := 5
  redactedMarker : String := "[REDACTED]"
  cacheMaxEntries : Int := 128
  corsOrigins : List String := ["http://localhost:3000"]
  logLevel : String := "INFO"
  logFile : Option String := none
  logDir : String := "logs"
  debug : Bool := false

end Tabular
