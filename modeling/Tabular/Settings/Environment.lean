import Tabular.Json.Reader
import Tabular.Schema.Check
import Tabular.Settings
import Tabular.Text.Case

namespace Tabular

/-!
# Settings from the environment

Every setting can be set by an environment variable, whose name is that of the service, an
underscore and that of the setting, in any case of letters. Lists are written as documents. A list
that is no document stops the reading; all other issues are collected in the order of the settings.
-/

/-- Variables by name. -/
abbrev Environment := List (String × String)

/-- Why an environment gives no settings. -/
inductive EnvironmentFault where
  /-- A list is not written as a document. -/
  | undecodable
  | invalid (issues : List Issue)

namespace Environment

/-- What the names of all variables start with. -/
def lead : String :=
  Text.upper serviceName ++ "_"

/-- The value of the variable of a setting, the last one given. -/
def value? (environment : Environment) (name : String) : Option String :=
  (environment.reverse.find? fun entry => Text.lower entry.1 == Text.lower (lead ++ name)).map
    Prod.snd

/-- The change of the settings by a variable; none when it is not set. -/
def change {α : Type} (environment : Environment) (name : String) (read : String → Checked α)
    (store : α → Settings → Settings) : Checked (Settings → Settings) :=
  match environment.value? name with
  | some written => ((read written).under (.key name)).map store
  | none => .ok id

/-- The integer that a text writes. -/
def whole (written : String) : Checked Int :=
  Schema.required .notWholeText (Schema.wholeOfText? written)

/-- The number that a text writes. -/
def number (written : String) : Checked Amount :=
  (Schema.required .notNumberText (Schema.numberOfText? written)).map .real

/-- The truth value that a text writes. -/
def truth (written : String) : Checked Bool :=
  Schema.required .notTruthText (Schema.truthOfText? written)

/-- The texts that a document lists. -/
def texts (document : Json) (_ : String) : Checked (List String) :=
  Schema.list Schema.text document

/-- The change of the list of origins, unless the document that it is written as is nothing. -/
def originsChange (environment : Environment) (origins : Json) :
    Checked (Settings → Settings) :=
  match origins with
  | .null => .ok id
  | origins =>
      environment.change "CORS_ORIGINS" (texts origins)
        fun value settings => { settings with corsOrigins := value }

/--
The changes of the settings in their order, where the list of origins is written as a document.
-/
def changes (environment : Environment) (origins : Json) :
    List (Checked (Settings → Settings)) :=
  [environment.change "TYPE_SAMPLE_ROWS" whole
      fun value settings => { settings with typeSampleRows := value },
    environment.change "SMART_TYPE_THRESHOLD" number
      fun value settings => { settings with smartTypeThreshold := value },
    environment.change "OUTLIER_MIN_VALUES" whole
      fun value settings => { settings with outlierMinValues := value },
    environment.change "IQR_MULTIPLIER" number
      fun value settings => { settings with iqrMultiplier := value },
    environment.change "PIVOT_DECIMALS" whole
      fun value settings => { settings with pivotDecimals := value },
    environment.change "PREVIEW_ROWS" whole
      fun value settings => { settings with previewRows := value },
    environment.change "REDACTED_MARKER" .ok
      fun value settings => { settings with redactedMarker := value },
    environment.change "CACHE_MAX_ENTRIES" whole
      fun value settings => { settings with cacheMaxEntries := value },
    environment.originsChange origins,
    environment.change "LOG_LEVEL" .ok
      fun value settings => { settings with logLevel := value },
    environment.change "LOG_FILE" .ok
      fun value settings => { settings with logFile := some value },
    environment.change "LOG_DIR" .ok
      fun value settings => { settings with logDir := value },
    environment.change "DEBUG" truth
      fun value settings => { settings with debug := value }]

/-- The document that the list of origins is written as; nothing when it is not set. -/
def originsDocument (environment : Environment) : Except EnvironmentFault Json :=
  match environment.value? "CORS_ORIGINS" with
  | none => .ok .null
  | some written =>
      match Json.read written with
      | .ok document => .ok document
      | .error _ => .error .undecodable

end Environment

/-- The settings that an environment gives. -/
def Settings.ofEnvironment (environment : Environment) : Except EnvironmentFault Settings := do
  let origins ← environment.originsDocument
  match Checked.all (environment.changes origins) with
  | .ok changes => return changes.foldl (fun settings change => change settings) {}
  | .error issues => throw (.invalid issues)

end Tabular
