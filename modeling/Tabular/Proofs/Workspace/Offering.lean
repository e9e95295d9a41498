import Tabular.Proofs.Filter.Validation
import Tabular.Proofs.Join.Merging
import Tabular.Proofs.Workspace.Joins

namespace Tabular

/-!
# What is offered is what is accepted

The list of columns tells the type of a column from its own table. A new condition is checked
against the types of the current view, which is a joined table that may have been cached long
before. The types of that table are those of the tables under the names that their columns go by, so
for every listed column of a joined table exactly the operators are accepted that its type offers.
-/

namespace Workspace

open Join Join.Sources Tabular.Action

/--
The tables are joined, all that the joins name are loaded, and their columns go by different names.
Types and kinds can be inferred for every table.
-/
structure JoinsApart (settings : Settings) (workspace : Workspace) : Prop where
  isJoined : workspace.isJoined = true
  loaded : ∀ name ∈ namesOf workspace.joins, workspace.tables.contains name = true
  apart : ∀ name ∈ namesOf workspace.joins, ∀ other ∈ namesOf workspace.joins, name ≠ other →
    ∀ snapshot otherSnapshot, workspace.tables.find? name = some snapshot →
      workspace.tables.find? other = some otherSnapshot →
        (snapshot.table.columns.map (columnName (workspace.prefixOf name))).Disjoint
          (otherSnapshot.table.columns.map (columnName (workspace.prefixOf other)))
  types : ∀ name snapshot, workspace.tables.find? name = some snapshot →
    ∃ types, snapshot.table.types settings = .ok types
  kinds : ∀ name snapshot, workspace.tables.find? name = some snapshot →
    ∃ kinds, snapshot.table.smartTypes settings = .ok kinds

variable {settings : Settings} {ledger : Ledger} {session : Session}

/-! ## The types of the current view -/

theorem exists_find?_of_source
    {workspace : Workspace}
    {name : String}
    {table : Table}
    (found : workspace.sources.tables.find? name = some table) :
    ∃ snapshot, workspace.tables.find? name = some snapshot ∧ snapshot.table = table := by
  rwa [sources, Assoc.find?_mapValues, Option.map_eq_some_iff] at found

/-- The types of the current view are those of the joined tables, under the names of the columns. -/
theorem exists_currentTypes
    (keeps : session.KeepsJoins settings ledger)
    (apart : session.workspace.JoinsApart settings) :
    ∃ merged,
      session.workspace.sources.describe (fun _ table => table.types settings)
          (namesOf session.workspace.joins) =
        .ok merged ∧
      ((currentTypes settings).perform session).1 = .ok merged := by
  obtain ⟨merged, described⟩ :=
    (describe_succeeds_iff session.workspace.sources (fun _ table => table.types settings)
      (namesOf session.workspace.joins)).mpr fun name _ table found => by
        obtain ⟨snapshot, isFound, rfl⟩ := exists_find?_of_source found
        exact apart.types name snapshot isFound
  obtain ⟨kinds, kindsDescribed⟩ :=
    (describe_succeeds_iff session.workspace.sources (fun _ table => table.smartTypes settings)
      (namesOf session.workspace.joins)).mpr fun name _ table found => by
        obtain ⟨snapshot, isFound, rfl⟩ := exists_find?_of_source found
        exact apart.kinds name snapshot isFound
  have hasStages : session.workspace.joins ≠ [] := by
    have someJoins := apart.isJoined
    rw [isJoined, Bool.and_eq_true] at someJoins
    simpa using someJoins.1
  have loaded : ∀ name ∈ namesOf session.workspace.joins,
      session.workspace.sources.tables.contains name := by
    intro name member
    have isLoaded := apart.loaded name member
    rw [Assoc.contains, sources, Assoc.find?_mapValues, Option.isSome_map]
    exact isLoaded
  have joined :
      session.workspace.contents.joinedTable settings =
        .ok (joinedTable session.workspace.sources session.workspace.joins merged kinds) := by
    have performed := performJoin_of_loaded settings hasStages loaded
    rw [described, kindsDescribed] at performed
    exact congrArg (Joined.table <$> ·) performed
  refine ⟨merged, described, ?_⟩
  have isTable := (perform_currentView_of_isJoined keeps apart.isJoined).1
  rw [joined] at isTable
  rcases performed : (currentView settings).perform session with ⟨fault | snapshot, after⟩
  · rw [performed] at isTable
    cases isTable
  · rw [performed] at isTable
    have given : snapshot.table.typeSource = .given merged :=
      congrArg Table.typeSource (Except.ok.inj isTable)
    rw [currentTypes, perform_bind_of_ok performed, Action.types, given]
    rfl

/-! ## The list of columns -/

/-- The entry is a column of a loaded table, with the type that it has there. -/
def Lists (settings : Settings) (workspace : Workspace) (entry : FilterColumn) : Prop :=
  ∃ snapshot types, workspace.tables.find? entry.table = some snapshot ∧
    snapshot.table.types settings = .ok types ∧ entry.column ∈ snapshot.table.columns ∧
      entry.name = columnName (workspace.prefixOf entry.table) entry.column ∧
        entry.columnType = (types.find? entry.column).getD .string

theorem Lists.name_ne_empty
    {workspace : Workspace}
    {entry : FilterColumn}
    (lists : workspace.Lists settings entry) :
    entry.name ≠ "" := by
  obtain ⟨_, _, _, _, _, isName, _⟩ := lists
  intro isEmpty
  have noCharacters := congrArg String.length (isName.symm.trans isEmpty)
  simp [columnName] at noCharacters

/-- The list of columns answers, and every entry of it is a column of a loaded table. -/
theorem exists_filterColumns
    (recorded : session.IsRecorded settings ledger)
    (inferable : ∀ name snapshot, session.workspace.tables.find? name = some snapshot →
      ∃ types, snapshot.table.types settings = .ok types) :
    ∃ columns, session.answer settings (.read .filterColumns) = .ok (.columns columns) ∧
      ∀ entry ∈ columns, session.workspace.Lists settings entry := by
  have listed : ∃ lists,
      (session.workspace.contents.tables.entries.mapM fun entry =>
        session.workspace.contents.columnsOfTable settings entry.1 entry.2) = .ok lists ∧
      ∀ list ∈ lists, ∀ entry ∈ list, session.workspace.Lists settings entry := by
    refine Outcome.exists_mapM fun named member => ?_
    obtain ⟨⟨name, snapshot⟩, isNamed, rfl⟩ := List.mem_map.mp member
    have found := Assoc.find?_eq_some_iff.mpr isNamed
    obtain ⟨types, isTyped⟩ := inferable name snapshot found
    refine ⟨_, by rw [Contents.columnsOfTable, isTyped]; rfl, fun entry among => ?_⟩
    obtain ⟨column, isColumn, rfl⟩ := List.mem_map.mp among
    exact ⟨snapshot, types, found, isTyped, isColumn, rfl, rfl⟩
  obtain ⟨lists, areLists, areListed⟩ := listed
  have answered := (gives_filterColumns ledger subset_rfl session recorded rfl).1
  rw [Contents.filterColumns, areLists] at answered
  refine ⟨lists.flatten, ?_, fun entry member => ?_⟩
  · rw [Session.answer, Operation.action, Read.action, perform_map, answered]
    rfl
  · obtain ⟨list, isList, among⟩ := List.mem_flatten.mp member
    exact areListed list isList entry among

/-- A listed column of a joined table has its type in the current view too. -/
theorem Lists.find?_eq
    (integral : session.workspace.contents.IsIntegral)
    (apart : session.workspace.JoinsApart settings)
    {merged : Assoc ColumnType}
    (described :
      session.workspace.sources.describe (fun _ table => table.types settings)
          (namesOf session.workspace.joins) =
        .ok merged)
    {entry : FilterColumn}
    (lists : session.workspace.Lists settings entry)
    (member : entry.table ∈ namesOf session.workspace.joins) :
    (merged.find? entry.name).getD .string = entry.columnType := by
  obtain ⟨snapshot, types, found, isTyped, isColumn, isName, isType⟩ := lists
  have keys_eq {name : String} {snapshot : Snapshot} {types : Assoc ColumnType}
      (found : session.workspace.tables.find? name = some snapshot)
      (isTyped : snapshot.table.types settings = .ok types) :
      types.keys = snapshot.table.columns :=
    (integral.regular (find?_contents_of_found found)).keys_types isTyped
  have loaded : session.workspace.sources.tables.find? entry.table = some snapshot.table :=
    find?_contents_of_found found
  rw [isName, isType]
  refine congrArg (Option.getD · ColumnType.string) ?_
  refine find?_describe described member loaded isTyped (by rwa [keys_eq found isTyped]) ?_
  intro other otherMember different otherTable otherTypes otherLoaded otherTyped otherColumn
    isOther sameName
  obtain ⟨otherSnapshot, otherFound, rfl⟩ := exists_find?_of_source otherLoaded
  rw [keys_eq otherFound otherTyped] at isOther
  exact
    apart.apart other otherMember entry.table member different otherSnapshot snapshot otherFound
      found (List.mem_map_of_mem isOther) (List.mem_map.mpr ⟨entry.column, isColumn, sameName.symm⟩)

/-! ## Adding a condition -/

/-- A node can be added to the root, which is a group. -/
theorem perform_addNode_of_isGroup
    (isGroup : session.workspace.filter.isGroup = true)
    {parent : Option String}
    (isRoot : session.workspace.parentOf parent = session.workspace.filter.id)
    (node : FilterNode) :
    ((addNode parent node).perform session).1 = .ok node.id := by
  obtain ⟨filter, inserted⟩ :
      ∃ filter,
        session.workspace.insertNode (session.workspace.parentOf parent) node = .ok filter := by
    rw [isRoot, insertNode]
    cases root : session.workspace.filter with
    | condition leaf =>
        rw [root] at isGroup
        cases isGroup
    | group id logic children =>
        exact ⟨_, by simp [FilterNode.find?, FilterNode.id]; rfl⟩
  rw [addNode, perform_bind_of_ok (perform_workspace session), inserted]
  rfl

/-- A condition can be added to the root exactly when it is valid for the current types. -/
theorem answers_addCondition_iff
    (isGroup : session.workspace.filter.isGroup = true)
    {types : Assoc ColumnType}
    (typed : ((currentTypes settings).perform session).1 = .ok types)
    {parent : Option String}
    (isRoot : session.workspace.parentOf parent = session.workspace.filter.id)
    (field operator : Option String)
    (value : Cell) :
    (∃ id, session.answer settings (.edit (.addCondition parent field operator value)) =
        .ok (.text id)) ↔
      Condition.validate { id := drawnId session.supply.nodes, field, operator, value } types =
        .ok () := by
  set condition : Condition :=
    { id := drawnId session.supply.nodes, field, operator, value } with isCondition
  have drawn :
      (Action.ofNaming (FilterNode.newCondition field operator value)).perform session =
        (.ok condition, session.withNodes (session.supply.nodes + 1)) :=
    perform_ofNaming_of_ok rfl
  have found := (keeps_currentTypes settings).ignoresNodes session (session.supply.nodes + 1)
  have sameContents := contents_eq_of_same ((keeps_currentTypes settings).same session)
  generalize (currentTypes settings).perform session = performed at typed found sameContents
  obtain ⟨outcome, after⟩ := performed
  cases typed
  have sameFilter : after.workspace.filter = session.workspace.filter :=
    congrArg Contents.filter sameContents
  have added :
      ((addCondition settings parent field operator value).perform session).1 =
        (condition.validate types).map fun _ => condition.id := by
    rw [addCondition, perform_bind_of_ok drawn, perform_bind_of_ok found, perform_bind,
      perform_ofOutcome]
    cases condition.validate types with
    | error fault =>
        rfl
    | ok _ =>
        have sameParent :
            after.workspace.parentOf parent = session.workspace.parentOf parent := by
          unfold parentOf
          rw [sameFilter]
        refine perform_addNode_of_isGroup (sameFilter.symm ▸ isGroup) ?_ _
        exact sameParent.trans (isRoot.trans (congrArg FilterNode.id sameFilter.symm))
  rw [Session.answer, Operation.action, Edit.action, perform_map, added]
  cases condition.validate types with
  | error fault =>
      constructor
      · rintro ⟨id, answered⟩
        cases answered
      · intro valid
        cases valid
  | ok _ =>
      exact ⟨fun _ => rfl, fun _ => ⟨_, rfl⟩⟩

end Workspace

open Workspace

/--
In every state that operations on a new workspace lead to: when the tables are joined, all that the
joins name are loaded, their columns go by different names, and types and kinds can be inferred, the
list of columns answers. For each of its entries that belongs to a joined table, a condition on the
column with an operator, however written, can be added to the root exactly when the operator is
offered for the type of the entry.
-/
theorem accepts_exactly_what_is_offered
    (settings : Settings)
    (supply : Supply)
    (operations : List Operation)
    (apart :
      ((Session.start settings supply).after settings operations).workspace.JoinsApart settings) :
    let session := (Session.start settings supply).after settings operations
    ∃ columns, session.answer settings (.read .filterColumns) = .ok (.columns columns) ∧
      ∀ entry ∈ columns, entry.table ∈ Join.Sources.namesOf session.workspace.joins →
        ∀ parent, session.workspace.parentOf parent = session.workspace.filter.id →
          ∀ (operator : String) (value : Cell),
            (∃ id,
              session.answer settings
                  (.edit (.addCondition parent (some entry.name) (some operator) value)) =
                .ok (.text id)) ↔
              Operator.normalizeName operator ∈
                (Operator.offeredFor entry.columnType).map Operator.name := by
  intro session
  obtain ⟨ledger, keeps⟩ := Session.exists_keepsJoins_after settings supply operations
  have integral :=
    Session.isIntegral_after settings (Session.isIntegral_start settings supply) operations
  obtain ⟨columns, listed, areListed⟩ := exists_filterColumns keeps.recorded apart.types
  obtain ⟨merged, described, typed⟩ := exists_currentTypes keeps apart
  refine ⟨columns, listed, fun entry member isJoined parent isRoot operator value => ?_⟩
  have lists := areListed entry member
  rw [answers_addCondition_iff integral.filter_isGroup typed isRoot,
    Condition.validate_eq_ok_iff ?_ rfl]
  · rw [← lists.find?_eq integral apart described isJoined]
    rfl
  · simpa [Condition.isUnfinished] using lists.name_ne_empty

namespace Session.Sample

/-- Two tables are joined and looked at before one of them is renamed and the other is cleaned. -/
def joinedSales : List Operation :=
  [.edit (.loadTable "sales" [.ofList [("id", .int 1), ("amount", .text "$5")]]),
    .edit (.loadTable "people" [.ofList [("id", .int 1), ("name", .text "Ann")]]),
    .edit
      (.setJoins
        [{ leftTable := "sales", leftColumn := "id",
           rightTable := "people", rightColumn := "id" }]),
    .read (.view .currentView),
    .edit (.setAlias "people" "staff"),
    .edit (.cleanColumn "amount" (.text "numbersOnly") (some "sales"))]

/-- The columns that an answer lists, by table and name, with their types. -/
def listedColumns : Outcome Answer → List (String × String × ColumnType)
  | .ok (.columns columns) => columns.map fun entry => (entry.table, entry.name, entry.columnType)
  | _ => []

/-- After this run the cleaned amount is offered, and accepted, as a number and not as a text. -/
theorem accepts_of_joinedSales :
    let session := (Session.start {} {}).after {} joinedSales
    session.workspace.JoinsApart {} ∧
      (∃ id,
        session.answer {}
            (.edit (.addCondition none (some "sales.amount") (some "<=") (.int 3))) =
          .ok (.text id)) ∧
        ¬∃ id,
          session.answer {}
              (.edit (.addCondition none (some "sales.amount") (some "contains") (.text "5"))) =
            .ok (.text id) := by
  intro session
  have entry_of_found {name : String} {snapshot : Snapshot}
      (found : session.workspace.tables.find? name = some snapshot) :
      (name, snapshot) ∈ session.workspace.tables.entries :=
    Assoc.find?_eq_some_iff.mp found
  have evaluated :
      (session.workspace.isJoined = true ∧
        (∀ name ∈ Join.Sources.namesOf session.workspace.joins,
          session.workspace.tables.contains name = true) ∧
        "sales" ∈ Join.Sources.namesOf session.workspace.joins) ∧
      (∀ entry ∈ session.workspace.tables.entries,
        (entry.2.table.types {}).fault? = none ∧ (entry.2.table.smartTypes {}).fault? = none) ∧
      (∀ entry ∈ session.workspace.tables.entries, ∀ other ∈ session.workspace.tables.entries,
        entry.1 ≠ other.1 →
          ∀ column ∈ entry.2.table.columns.map
              (Join.columnName (session.workspace.prefixOf entry.1)),
            column ∉ other.2.table.columns.map
              (Join.columnName (session.workspace.prefixOf other.1))) ∧
      ("sales", "sales.amount", ColumnType.number) ∈
        listedColumns (session.answer {} (.read .filterColumns)) := by
    decide +kernel
  obtain ⟨⟨isJoined, loaded, named⟩, typed, disjoint, shown⟩ := evaluated
  have apart : session.workspace.JoinsApart {} :=
    { isJoined, loaded
      apart := fun name _ other _ different _ _ found otherFound column among otherAmong =>
        disjoint _ (entry_of_found found) _ (entry_of_found otherFound) different column among
          otherAmong
      types := fun _ _ found =>
        Outcome.fault?_eq_none_iff.mp (typed _ (entry_of_found found)).1
      kinds := fun _ _ found =>
        Outcome.fault?_eq_none_iff.mp (typed _ (entry_of_found found)).2 }
  obtain ⟨columns, listed, accepts⟩ :=
    accepts_exactly_what_is_offered {} {} joinedSales apart
  rw [listed] at shown
  obtain ⟨entry, member, isEntry⟩ := List.mem_map.mp shown
  simp only [Prod.mk.injEq] at isEntry
  obtain ⟨isTable, isName, isType⟩ := isEntry
  have accepts_iff (operator : String) (value : Cell) :=
    accepts entry member (isTable ▸ named) none rfl operator value
  rw [isName, isType] at accepts_iff
  exact
    ⟨apart, (accepts_iff "<=" (.int 3)).mpr (by decide +kernel),
      (accepts_iff "contains" (.text "5")).not.mpr (by decide +kernel)⟩

end Session.Sample

end Tabular
