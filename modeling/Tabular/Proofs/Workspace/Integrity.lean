import Tabular.Proofs.Workspace.Change
import Tabular.Proofs.Workspace.RecordedOperations

namespace Tabular

/-!
# Workspaces fit together

The parts of a workspace refer to one another: the active table and the keys of aliases to tables
that are loaded, and tables by their own names. Whatever operations are performed, and whichever of
them fail, these references never dangle, the filter stays a group, and the columns of every table
are those of its first row, of which its types are inferred.
-/

namespace Contents

/-- The parts of the contents fit together. -/
structure IsIntegral (contents : Contents) : Prop where
  active_none_iff : contents.active = none ↔ contents.tables.keys = []
  active_loaded : ∀ {name}, contents.active = some name → contents.IsLoaded name
  alias_loaded : ∀ {name}, name ∈ contents.aliases.keys → contents.IsLoaded name
  filter_isGroup : contents.filter.isGroup = true
  name_eq : ∀ {name table}, contents.tables.find? name = some table → table.name = some name
  regular : ∀ {name table}, contents.tables.find? name = some table → table.IsRegular

theorem isLoaded_iff_mem_keys
    {contents : Contents}
    {name : String} :
    contents.IsLoaded name ↔ name ∈ contents.tables.keys :=
  Assoc.mem_keys_iff.symm

/-- A table that is stored is loaded. -/
theorem isLoaded_withTable
    (contents : Contents)
    (name : String)
    (table : Table) :
    (contents.withTable name table).IsLoaded name :=
  ⟨table, by rw [Contents.withTable, Assoc.find?_insert, if_pos rfl]⟩

/-- A table stays loaded when one is stored, under whatever name. -/
theorem IsLoaded.withTable
    {contents : Contents}
    {name : String}
    (isLoaded : contents.IsLoaded name)
    (other : String)
    (table : Table) :
    (contents.withTable other table).IsLoaded name := by
  obtain ⟨before, found⟩ := isLoaded
  by_cases same : other = name
  · subst same
    exact isLoaded_withTable contents other table
  · exact ⟨before, by rw [Contents.withTable, Assoc.find?_insert, if_neg same, found]⟩

/-- A table stays loaded when another one is removed. -/
theorem IsLoaded.withoutTable
    {contents : Contents}
    {name removed : String}
    (isLoaded : contents.IsLoaded name)
    (other : removed ≠ name) :
    (contents.withoutTable removed).IsLoaded name := by
  obtain ⟨table, found⟩ := isLoaded
  exact ⟨table, by rw [Contents.withoutTable, Assoc.find?_erase, if_neg other, found]⟩

/-- A table that is left after another one is removed was there before. -/
theorem find?_of_withoutTable
    {contents : Contents}
    {name removed : String}
    {table : Table}
    (found : (contents.withoutTable removed).tables.find? name = some table) :
    removed ≠ name ∧ contents.tables.find? name = some table := by
  rw [Contents.withoutTable, Assoc.find?_erase] at found
  split at found
  · cases found
  · next other =>
      exact ⟨other, found⟩

theorem active_of_withoutTable
    {contents : Contents}
    {name : String} :
    (contents.withoutTable name).active =
      if contents.active = some name then (contents.withoutTable name).tables.keys.head?
      else contents.active :=
  rfl

namespace IsIntegral

variable {contents : Contents}

/-- There is an active table as soon as a table is loaded. -/
theorem exists_active
    (integral : contents.IsIntegral)
    {name : String}
    (isLoaded : contents.IsLoaded name) :
    ∃ chosen, contents.active = some chosen ∧ contents.IsLoaded chosen := by
  have someKeys : contents.tables.keys ≠ [] :=
    List.ne_nil_of_mem (isLoaded_iff_mem_keys.mp isLoaded)
  obtain ⟨chosen, isActive⟩ :=
    Option.ne_none_iff_exists'.mp (mt integral.active_none_iff.mp someKeys)
  exact ⟨chosen, isActive, integral.active_loaded isActive⟩

/-- A regular table may be stored under its own name when a loaded table is active afterwards. -/
theorem withTable
    (integral : contents.IsIntegral)
    {name : String}
    {table : Table}
    (named : table.name = some name)
    (regular : table.IsRegular)
    {active : String}
    (isLoaded : (contents.withTable name table).IsLoaded active) :
    IsIntegral { contents.withTable name table with active := some active } where
  active_none_iff :=
    iff_of_false (Option.some_ne_none _) (List.ne_nil_of_mem (isLoaded_iff_mem_keys.mp isLoaded))
  active_loaded := by
    rintro _ ⟨⟩
    exact isLoaded
  alias_loaded member := (integral.alias_loaded member).withTable name table
  filter_isGroup := integral.filter_isGroup
  name_eq {other found} isFound := by
    dsimp only [Contents.withTable] at isFound
    rw [Assoc.find?_insert] at isFound
    split at isFound
    · next same =>
        cases isFound
        rw [named, same]
    · exact integral.name_eq isFound
  regular {other found} isFound := by
    dsimp only [Contents.withTable] at isFound
    rw [Assoc.find?_insert] at isFound
    split at isFound
    · cases isFound
      exact regular
    · exact integral.regular isFound

/-- A loaded table may be replaced by a regular one of the same name. -/
theorem replaceTable
    (integral : contents.IsIntegral)
    {name : String}
    {table : Table}
    (isLoaded : contents.IsLoaded name)
    (named : table.name = some name)
    (regular : table.IsRegular) :
    (contents.withTable name table).IsIntegral := by
  obtain ⟨chosen, isActive, chosenLoaded⟩ := integral.exists_active isLoaded
  have stored := integral.withTable named regular (chosenLoaded.withTable name table)
  rwa [← isActive] at stored

/-- The first of the tables that are left becomes active when the active one is removed. -/
theorem withoutTable
    (integral : contents.IsIntegral)
    (name : String) :
    (contents.withoutTable name).IsIntegral where
  active_none_iff := by
    by_cases isActive : contents.active = some name
    · rw [active_of_withoutTable, if_pos isActive, List.head?_eq_none_iff]
    · rw [active_of_withoutTable, if_neg isActive]
      cases active : contents.active with
      | none =>
          refine iff_of_true rfl (List.eq_nil_iff_forall_not_mem.mpr fun other member => ?_)
          obtain ⟨table, found⟩ := isLoaded_iff_mem_keys.mpr member
          have before : contents.IsLoaded other := ⟨table, (find?_of_withoutTable found).2⟩
          rw [isLoaded_iff_mem_keys, integral.active_none_iff.mp active] at before
          exact absurd before List.not_mem_nil
      | some chosen =>
          have different : name ≠ chosen := by
            rintro rfl
            exact isActive active
          have isLoaded := (integral.active_loaded active).withoutTable different
          exact
            iff_of_false (Option.some_ne_none _)
              (List.ne_nil_of_mem (isLoaded_iff_mem_keys.mp isLoaded))
  active_loaded {other} isOther := by
    rw [active_of_withoutTable] at isOther
    split at isOther
    · exact isLoaded_iff_mem_keys.mpr (List.mem_of_head? isOther)
    · next notActive =>
        have different : name ≠ other := by
          rintro rfl
          exact notActive isOther
        exact (integral.active_loaded isOther).withoutTable different
  alias_loaded {other} member := by
    obtain ⟨shown, found⟩ := Assoc.mem_keys_iff.mp member
    rw [Contents.withoutTable, Assoc.find?_erase] at found
    split at found
    · cases found
    · next different =>
        exact (integral.alias_loaded (Assoc.mem_keys_iff.mpr ⟨shown, found⟩)).withoutTable different
  filter_isGroup := integral.filter_isGroup
  name_eq found := integral.name_eq (find?_of_withoutTable found).2
  regular found := integral.regular (find?_of_withoutTable found).2

end IsIntegral

/-- Every change leaves contents that fit together. -/
theorem Change.isIntegral
    {before after : Contents}
    (change : before.Change after)
    (integral : before.IsIntegral) :
    after.IsIntegral := by
  cases change with
  | loaded name rows =>
      have regular := Table.IsRegular.ofRows (some name) rows
      rw [withLoaded]
      cases isActive : before.active with
      | none =>
          exact integral.withTable rfl regular (isLoaded_withTable before name _)
      | some chosen =>
          exact integral.withTable rfl regular
            ((integral.active_loaded isActive).withTable name _)
  | removed name =>
      exact integral.withoutTable name
  | activated name isLoaded =>
      refine { integral with active_none_iff := ?_, active_loaded := ?_ }
      · exact
          iff_of_false (Option.some_ne_none _)
            (List.ne_nil_of_mem (isLoaded_iff_mem_keys.mp isLoaded))
      · rintro _ ⟨⟩
        exact isLoaded
  | cleared root isGroup =>
      refine ⟨iff_of_true rfl rfl, ?_, ?_, isGroup, ?_, ?_⟩
      · intro name active
        cases active
      · intro name member
        exact absurd member List.not_mem_nil
      · intro name table found
        cases found
      · intro name table found
        cases found
  | joined joins =>
      exact { integral with }
  | named name chosen isLoaded =>
      refine { integral with alias_loaded := ?_ }
      intro other member
      obtain ⟨shown, found⟩ := Assoc.mem_keys_iff.mp member
      rw [Assoc.find?_insert] at found
      split at found
      · next same =>
          exact same ▸ isLoaded
      · exact integral.alias_loaded (Assoc.mem_keys_iff.mpr ⟨shown, found⟩)
  | filtered filter staysGroup =>
      exact { integral with filter_isGroup := staysGroup integral.filter_isGroup }
  | caseSet caseSensitive =>
      exact { integral with }
  | replaced name table rows found =>
      have regular := Table.IsRegular.ofRows table.name rows
      exact integral.replaceTable ⟨table, found⟩ (integral.name_eq found :) regular
  | derived name table rows found sameColumns =>
      have regular := (integral.regular found).derive sameColumns
      exact integral.replaceTable ⟨table, found⟩ (integral.name_eq found :) regular

end Contents

/-! ## Runs -/

namespace Session

/-- A run keeps the contents of its workspace fitting together. -/
theorem isIntegral_after
    (settings : Settings)
    {session : Session}
    (integral : session.workspace.contents.IsIntegral)
    (operations : List Operation) :
    (session.after settings operations).workspace.contents.IsIntegral := by
  induction operations generalizing session with
  | nil =>
      exact integral
  | cons operation rest inductionHypothesis =>
      refine inductionHypothesis ?_
      rcases operation.contents_eq_or_change settings session with same | change
      · exact same ▸ integral
      · exact change.isIntegral integral

theorem isIntegral_start
    (settings : Settings)
    (supply : Supply) :
    (start settings supply).workspace.contents.IsIntegral :=
  ⟨iff_of_true rfl rfl, nofun, nofun, rfl, nofun, nofun⟩

end Session

/-- How the parts of the workspace of a session fit together. -/
structure Session.FitsTogether (settings : Settings) (session : Session) : Prop where
  /-- There is an active table unless no table is loaded. -/
  active_none_iff : session.workspace.active = none ↔ session.workspace.tables.keys = []
  active_loaded : ∀ name, session.workspace.active = some name →
    session.workspace.tables.contains name = true
  alias_loaded : ∀ name, session.workspace.aliases.contains name = true →
    session.workspace.tables.contains name = true
  filter_isGroup : session.workspace.filter.isGroup = true
  name_eq : ∀ name snapshot, session.workspace.tables.find? name = some snapshot →
    snapshot.table.name = some name
  columns_eq : ∀ name snapshot, session.workspace.tables.find? name = some snapshot →
    snapshot.table.columns = columnsOf snapshot.table.rows
  /-- When the types of a table can be inferred, they are those of its columns. -/
  types_keys : ∀ name snapshot, session.workspace.tables.find? name = some snapshot →
    ∀ types, ((Action.types settings snapshot).perform session).1 = .ok types →
      types.keys = snapshot.table.columns
  /-- Right after a table has been removed no join mentions it. -/
  joins_of_removal : ∀ name, session.answer settings (.edit (.removeTable name)) = .ok .done →
    ∀ spec ∈ (session.after settings [.edit (.removeTable name)]).workspace.joins,
      spec.mentions name = false

/--
After any operations on a new workspace, failed ones included, its parts fit together.
-/
theorem workspace_fits_together
    (settings : Settings)
    (supply : Supply)
    (operations : List Operation) :
    ((Session.start settings supply).after settings operations).FitsTogether settings := by
  have integral :=
    Session.isIntegral_after settings (Session.isIntegral_start settings supply) operations
  obtain ⟨ledger, recorded⟩ :=
    Session.exists_isRecorded_after (Session.isRecorded_start settings supply) operations
  generalize (Session.start settings supply).after settings operations = session
    at integral recorded
  have isLoaded {name : String} (loaded : session.workspace.contents.IsLoaded name) :
      session.workspace.tables.contains name = true := by
    obtain ⟨table, found⟩ := loaded
    rw [Workspace.find?_contents, Option.map_eq_some_iff] at found
    obtain ⟨snapshot, isFound, -⟩ := found
    rw [Assoc.contains, isFound]
    rfl
  exact
    { active_none_iff := by
        simpa [Workspace.contents] using integral.active_none_iff
      active_loaded := fun name active => isLoaded (integral.active_loaded active)
      alias_loaded := fun name present =>
        isLoaded
          (integral.alias_loaded (Assoc.mem_keys_iff.mpr (Option.isSome_iff_exists.mp present)))
      filter_isGroup := integral.filter_isGroup
      name_eq := fun name snapshot found =>
        integral.name_eq (Workspace.find?_contents_of_found found)
      columns_eq := fun name snapshot found =>
        (integral.regular (Workspace.find?_contents_of_found found)).columns_eq
      types_keys := by
        intro name snapshot found types inferred
        rw [recorded.perform_types (recorded.workspace.tables found)] at inferred
        exact (integral.regular (Workspace.find?_contents_of_found found)).keys_types inferred
      joins_of_removal := by
        intro name answered spec member
        obtain ⟨_, performed⟩ := Action.exists_of_perform_map_eq_ok answered
        have joins := congrArg Contents.joins (Workspace.contents_of_removeTable performed)
        have kept : spec ∈ session.workspace.joins.filter fun spec => !spec.mentions name :=
          (congrArg (spec ∈ ·) joins).mp member
        simpa using (List.mem_filter.mp kept).2 }

end Tabular
