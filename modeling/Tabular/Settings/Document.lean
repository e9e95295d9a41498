import Tabular.Json.Shape
import Tabular.Settings

namespace Tabular.Settings

/-!
# Settings as documents

A document of settings has a member for each of them. Reading is lenient: members of another shape
or with unknown names change nothing.
-/

/-- The settings as a document. -/
def toJson (settings : Settings) : Json :=
  .object
    [("TYPE_SAMPLE_ROWS", .int settings.typeSampleRows),
      ("SMART_TYPE_THRESHOLD", settings.smartTypeThreshold.toJson),
      ("OUTLIER_MIN_VALUES", .int settings.outlierMinValues),
      ("IQR_MULTIPLIER", settings.iqrMultiplier.toJson),
      ("PIVOT_DECIMALS", .int settings.pivotDecimals),
      ("PREVIEW_ROWS", .int settings.previewRows),
      ("REDACTED_MARKER", .text settings.redactedMarker),
      ("CACHE_MAX_ENTRIES", .int settings.cacheMaxEntries),
      ("CORS_ORIGINS", .ofTexts settings.corsOrigins), ("LOG_LEVEL", .text settings.logLevel),
      ("LOG_FILE", .ofOption .text settings.logFile), ("LOG_DIR", .text settings.logDir),
      ("DEBUG", .bool settings.debug)]

/-- The settings changed by a member of a document. -/
def withMember (settings : Settings) : String × Json → Settings
  | ("TYPE_SAMPLE_ROWS", .int value) => { settings with typeSampleRows := value }
  | ("SMART_TYPE_THRESHOLD", value) =>
      { settings with smartTypeThreshold := value.toAmount?.getD settings.smartTypeThreshold }
  | ("OUTLIER_MIN_VALUES", .int value) => { settings with outlierMinValues := value }
  | ("IQR_MULTIPLIER", value) =>
      { settings with iqrMultiplier := value.toAmount?.getD settings.iqrMultiplier }
  | ("PIVOT_DECIMALS", .int value) => { settings with pivotDecimals := value }
  | ("PREVIEW_ROWS", .int value) => { settings with previewRows := value }
  | ("REDACTED_MARKER", .text value) => { settings with redactedMarker := value }
  | ("CACHE_MAX_ENTRIES", .int value) => { settings with cacheMaxEntries := value }
  | ("CORS_ORIGINS", value) => { settings with corsOrigins := value.texts }
  | ("LOG_LEVEL", .text value) => { settings with logLevel := value }
  | ("LOG_FILE", value) => { settings with logFile := value.toText? }
  | ("LOG_DIR", .text value) => { settings with logDir := value }
  | ("DEBUG", .bool value) => { settings with debug := value }
  | _ => settings

/-- The settings that a document tells; those that it does not tell are the usual ones. -/
def ofJson (document : Json) : Settings :=
  document.members.foldl withMember {}

end Tabular.Settings
