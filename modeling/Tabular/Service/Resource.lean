namespace Tabular.Service

/-!
# Resources

What the paths of the service name: the service itself, the store of workspaces, a workspace, or a
part of one.
-/

/-- A part of a workspace. -/
inductive WorkspacePart where
  /-- The workspace as a whole. -/
  | whole
  | clearing
  | tables
  | table (name : String)
  | tableAlias (name : String)
  | activeTable (name : String)
  | joins
  | filter
  | filterConditions
  | filterGroups
  | filterNode (id : String)
  | filterCase
  | filterColumns
  | view
  | columnValues (column : String)
  | columnStats (column : String)
  | pivot
  | quality
  | cleaning
  | cleaningPreview
  | filling
  | duplicates
  | anonymization
  | anonymizationPreview
  | anonymizationSuggestions
deriving DecidableEq

/-- What a path names. -/
inductive Resource where
  | root
  | health
  | workspaces
  | workspace (id : String) (part : WorkspacePart)
deriving DecidableEq

namespace WorkspacePart

/-- The part of a workspace that the segments of a path name. -/
def ofSegments? : List String → Option WorkspacePart
  | [] => some .whole
  | ["clear"] => some .clearing
  | ["tables"] => some .tables
  | ["tables", name] => some (.table name)
  | ["tables", name, "alias"] => some (.tableAlias name)
  | ["active-table", name] => some (.activeTable name)
  | ["joins"] => some .joins
  | ["filter"] => some .filter
  | ["filter", "conditions"] => some .filterConditions
  | ["filter", "groups"] => some .filterGroups
  | ["filter", "nodes", id] => some (.filterNode id)
  | ["filter", "case-sensitivity"] => some .filterCase
  | ["filter", "columns"] => some .filterColumns
  | ["view"] => some .view
  | ["columns", column, "values"] => some (.columnValues column)
  | ["columns", column, "stats"] => some (.columnStats column)
  | ["pivot"] => some .pivot
  | ["quality"] => some .quality
  | ["clean"] => some .cleaning
  | ["clean", "preview"] => some .cleaningPreview
  | ["fill-empty"] => some .filling
  | ["remove-duplicates"] => some .duplicates
  | ["anonymize"] => some .anonymization
  | ["anonymize", "preview"] => some .anonymizationPreview
  | ["anonymize", "suggestions"] => some .anonymizationSuggestions
  | _ => none

end WorkspacePart

namespace Resource

/-- What the segments of a path name. Segments that stand for names are not empty. -/
def ofSegments? (segments : List String) : Option Resource :=
  if segments.contains "" then none
  else
    match segments with
    | [] => some .root
    | ["health"] => some .health
    | ["workspaces"] => some .workspaces
    | "workspaces" :: id :: rest => (WorkspacePart.ofSegments? rest).map (.workspace id)
    | _ => none

end Resource

end Tabular.Service
