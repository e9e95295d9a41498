import Tabular.Analysis.Pivot
import Tabular.Analysis.Quality
import Tabular.Analysis.Statistics
import Tabular.Cache.Basic
import Tabular.Filter.Naming
import Tabular.Join.Basic

namespace Tabular

/-!
# Workspaces

A workspace holds the tables of one analysis: which of them is looked at, how they are joined, how
their columns are named, and how their rows are filtered. Tables are held as snapshots. A snapshot
never changes; it is replaced by one with another version. What is derived from snapshots is
remembered in two places: a bounded cache of views, whose keys hold all that a view depends on, and
a memo of what is known about the columns of a snapshot. Operations on a workspace are actions,
which keep what they have changed when they fail.
-/

/-- A table with its version, and the version of the table that its columns are described by. -/
structure Snapshot where
  version : Nat
  origin : Nat
  table : Table

/-! ## What is remembered -/

/-- What a view depends on. -/
inductive ViewKey where
  | joined (versions : List Nat) (specs : List JoinSpec) (aliases : List (String × String))
  | filtered (version : Nat) (tree : String) (caseSensitive : Bool)
  | arranged (version : Nat) (search : String) (caseSensitive : Bool) (sortBy : Option String)
      (direction : Cell)
  | pivot (version : Nat) (config : PivotConfig)
deriving DecidableEq

/-- A view of the tables. -/
inductive View where
  | table (snapshot : Snapshot)
  | pivot (result : PivotResult)

/-- What can be asked about a snapshot. -/
inductive MemoKey where
  | types (origin : Nat)
  | kinds (origin : Nat)
  | quality (version : Nat)
  | stats (version : Nat) (column : String)
  | uniqueValues (version : Nat) (column : String)
  | columnSums (version : Nat)
deriving DecidableEq

/-- What the answer to a question about a snapshot is. -/
abbrev MemoKey.Value : MemoKey → Type
  | .types _ => Assoc ColumnType
  | .kinds _ => Assoc SmartTypeInfo
  | .quality _ => QualityReport
  | .stats .. => Option ColumnStats
  | .uniqueValues .. => List String
  | .columnSums _ => Assoc Amount

/-- The answers that are remembered. -/
def Memo : Type :=
  (key : MemoKey) → Option key.Value

namespace Memo

/-- No answers. -/
def empty : Memo :=
  fun _ => none

/-- The memo with one more answer. -/
def remember (memo : Memo) (key : MemoKey) (value : key.Value) : Memo :=
  fun asked => if same : key = asked then some (same ▸ value) else memo asked

end Memo

/-! ## The state of a workspace -/

/-- A workspace. The key of a table is its name. -/
structure Workspace where
  id : String
  tables : Assoc Snapshot := .empty
  active : Option String := none
  aliases : Assoc String := .empty
  joins : List JoinSpec := []
  filter : FilterNode
  caseSensitive : Bool := false
  cache : SnapshotCache ViewKey View
  memo : Memo := .empty

/-- The next numbers of nodes, snapshots and workspaces. Numbers are never used twice. -/
structure Supply where
  nodes : Nat := 1
  snapshots : Nat := 1
  workspaces : Nat := 1

/-- A workspace and the supply that it draws from. -/
structure Session where
  supply : Supply
  workspace : Workspace

/-- An operation on a workspace. What it changes before it fails stays changed. -/
abbrev Action := ExceptT Fault (StateM Session)

namespace Action

/-- A computation without a workspace. -/
def ofOutcome {α : Type} : Outcome α → Action α
  | .ok value => return value
  | .error fault => throw fault

/-- A computation that draws identifiers. -/
def ofNaming {α : Type} (naming : Naming α) : Action α := do
  let session ← get
  match naming.run session.supply.nodes with
  | .ok (value, nodes) =>
      set { session with supply := { session.supply with nodes } }
      return value
  | .error fault => throw fault

/-- The workspace. -/
def workspace : Action Workspace :=
  return (← get).workspace

/-- The workspace changed. -/
def modifyWorkspace (change : Workspace → Workspace) : Action Unit :=
  modify fun session => { session with workspace := change session.workspace }

/-- A version that has not been drawn before. -/
def freshVersion : Action Nat := do
  let session ← get
  let version := session.supply.snapshots
  set { session with supply := { session.supply with snapshots := version + 1 } }
  return version

/-- A snapshot of a table that is described by its own rows. -/
def newSnapshot (table : Table) : Action Snapshot := do
  let version ← freshVersion
  return { version, origin := version, table }

/-- A snapshot of a table that is described as the one it comes from. -/
def derivedSnapshot (source : Snapshot) (table : Table) : Action Snapshot := do
  return { version := ← freshVersion, origin := source.origin, table }

/-- The remembered answer to a question, or the computed one, which is then remembered. -/
def remembered (key : MemoKey) (compute : Action key.Value) : Action key.Value := do
  match (← workspace).memo key with
  | some value => return value
  | none =>
      let value ← compute
      modifyWorkspace fun workspace =>
        { workspace with memo := workspace.memo.remember key value }
      return value

/-- The cached view under a key, or the computed one, which is then cached. -/
def cached (key : ViewKey) (compute : Action View) : Action View := do
  match (← workspace).cache.find? key with
  | some view =>
      modifyWorkspace fun workspace => { workspace with cache := workspace.cache.touch key }
      return view
  | none =>
      let view ← compute
      modifyWorkspace fun workspace => { workspace with cache := workspace.cache.store key view }
      return view

/-- The cached snapshot under a key, or the computed one. -/
def cachedTable (key : ViewKey) (compute : Action Snapshot) : Action Snapshot := do
  match ← cached key (View.table <$> compute) with
  | .table snapshot => return snapshot
  | .pivot _ => compute

/-- The cached pivot under a key, or the computed one. -/
def cachedPivot (key : ViewKey) (compute : Action PivotResult) : Action PivotResult := do
  match ← cached key (View.pivot <$> compute) with
  | .pivot result => return result
  | .table _ => compute

/-- The types of the columns of a snapshot. -/
def types (settings : Settings) (snapshot : Snapshot) : Action (Assoc ColumnType) :=
  match snapshot.table.typeSource with
  | .given map => return map
  | .inferred _ => remembered (.types snapshot.origin) (ofOutcome (snapshot.table.types settings))

/-- The kinds of the columns of a snapshot. -/
def smartTypes (settings : Settings) (snapshot : Snapshot) : Action (Assoc SmartTypeInfo) :=
  match snapshot.table.kindSource with
  | .given map => return map
  | .inferred _ =>
      remembered (.kinds snapshot.origin) (ofOutcome (snapshot.table.smartTypes settings))

end Action

namespace Workspace

/-- A workspace without tables. -/
def new (settings : Settings) (id : String) (filter : FilterNode) : Workspace where
  id
  filter
  cache := .empty settings.cacheMaxEntries

/-- The name that columns of a table are prefixed with: its alias, or its own name. -/
def prefixOf (workspace : Workspace) (name : String) : String :=
  Alias.nameIn workspace.aliases name

/-- The tables and aliases that a join can draw on. -/
def sources (workspace : Workspace) : Join.Sources where
  tables := workspace.tables.mapValues fun _ snapshot => snapshot.table
  aliases := workspace.aliases

end Workspace

end Tabular
