import Tabular.Change.Anonymization
import Tabular.Change.Cleaning
import Tabular.Json.Shape

namespace Tabular

/-!
# Changes as documents

How the changes of a cleaning step and the methods of anonymized columns are written.
-/

/-- Changes of cells as a document. -/
def changesToJson (write : Cell → Json) (changes : List CleaningChange) : Json :=
  .array
    (changes.map fun change =>
      .object
        [("row_index", .int change.rowIndex), ("before", write change.before),
          ("after", write change.after)])

/-- The methods of columns as a document. -/
def methodsToJson (methods : Assoc AnonymizationMethod) : Json :=
  methods.toJson fun method => .text method.name

end Tabular
