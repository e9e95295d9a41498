import Tabular.Proofs.Join.Equivalence
import Tabular.Proofs.Outcome

namespace Tabular

open List

/-!
# What a join answers

A join of loaded tables answers exactly when the columns of all of its tables can be described, and
then its rows are the lines of the nested loops.
-/

namespace Join.Sources

/-- Describing named tables succeeds exactly when each of them can be described. -/
theorem describe_succeeds_iff
    {α : Type}
    (sources : Sources)
    (find : String → Table → Outcome (Assoc α))
    (names : List String) :
    (∃ described, sources.describe find names = .ok described) ↔
      ∀ name ∈ names, ∀ table, sources.tables.find? name = some table →
        ∃ map, find name table = .ok map := by
  unfold describe
  generalize (Assoc.empty : Assoc α) = initial
  induction names generalizing initial with
  | nil =>
      simp [pure, Except.pure]
  | cons name rest inductionHypothesis =>
      rw [foldlM_cons]
      cases loaded : sources.tables.find? name with
      | none =>
          simpa [loaded, pure, Except.pure, bind, Except.bind] using
            inductionHypothesis initial
      | some table =>
          cases found : find name table with
          | error fault =>
              simp [loaded, found, bind, Except.bind]
          | ok map =>
              simpa [loaded, found, pure, Except.pure, bind, Except.bind]
                using inductionHypothesis _

theorem missing_eq_nil
    {sources : Sources}
    {specs : List JoinSpec}
    (loaded : ∀ name ∈ namesOf specs, sources.tables.contains name) :
    sources.missing specs = [] := by
  have noneAbsent :
      (namesOf specs).filter
        (fun name => !sources.tables.contains name) = [] := by
    rw [filter_eq_nil_iff]
    intro name member
    simp [loaded name member]
  simp [missing, noneAbsent, sortedNames]

/-- A further stage adds the columns of its right table. -/
theorem columns_foldl_nestedStage
    (sources : Sources)
    (specs : List JoinSpec)
    (left : Grid) :
    (specs.foldl sources.nestedStage left).columns =
      left.columns ++
        specs.flatMap fun spec => (sources.grid spec.rightTable).columns := by
  induction specs generalizing left with
  | nil =>
      simp
  | cons spec rest inductionHypothesis =>
      rw [foldl_cons, inductionHypothesis]
      simp [nestedStage, Grid.stage]

/-- The columns of nested loops are the columns of the tables in the order of the stages. -/
theorem columns_nestedLoop
    (sources : Sources)
    (specs : List JoinSpec) :
    (sources.nestedLoop specs).columns = sources.stageColumns specs := by
  cases specs with
  | nil =>
      rfl
  | cons first rest =>
      simp [nestedLoop, stageColumns, columns_foldl_nestedStage, Grid.stage]

end Join.Sources

open Join Join.Sources

/-- With all tables loaded, a join describes the columns and then chains the stages. -/
theorem performJoin_of_loaded
    (settings : Settings)
    {sources : Sources}
    {specs : List JoinSpec}
    (hasStages : specs ≠ [])
    (loaded : ∀ name ∈ namesOf specs, sources.tables.contains name) :
    performJoin settings sources specs = do
      let types ←
        sources.describe (fun _ table => table.types settings)
          (namesOf specs)
      let kinds ←
        sources.describe (fun _ table => table.smartTypes settings)
          (namesOf specs)
      return { table := joinedTable sources specs types kinds, missing := [] } := by
  have notEmpty : specs.isEmpty = false := by
    simpa using hasStages
  simp [performJoin, performJoinWith, missing_eq_nil loaded, notEmpty]

/-- A join that answers has the rows and columns of its stages. -/
theorem chain_of_performJoin
    {settings : Settings}
    {sources : Sources}
    {specs : List JoinSpec}
    (hasStages : specs ≠ [])
    (loaded : ∀ name ∈ namesOf specs, sources.tables.contains name)
    {joined : Joined}
    (answered : performJoin settings sources specs = .ok joined) :
    joined.table.columns = (chain sources specs).columns ∧
      joined.table.rows = (chain sources specs).rows := by
  rw [performJoin_of_loaded settings hasStages loaded] at answered
  obtain ⟨types, _, kindsAnswered⟩ := Outcome.bind_eq_ok_iff.mp answered
  obtain ⟨kinds, _, joinedIs⟩ := Outcome.bind_eq_ok_iff.mp kindsAnswered
  rw [Outcome.pure_eq_ok_iff] at joinedIs
  subst joinedIs
  exact ⟨rfl, rfl⟩

namespace Join.Sources

/-- The tables are the same, and every table has the same alias. -/
structure Alike (sources others : Sources) : Prop where
  tables : sources.tables = others.tables
  aliasOf : sources.aliasOf = others.aliasOf

namespace Alike

variable {sources others : Sources}

theorem column_eq
    (alike : sources.Alike others) :
    sources.column = others.column := by
  funext table name
  rw [Sources.column, Sources.column, alike.aliasOf]

theorem side_eq
    (alike : sources.Alike others) :
    sources.side = others.side := by
  funext name
  rw [side, side, alike.tables, alike.aliasOf]

theorem chain_eq
    (alike : sources.Alike others)
    (specs : List JoinSpec) :
    chain sources specs = chain others specs := by
  have sameStage : sources.nextStage = others.nextStage := by
    funext left spec
    rw [nextStage, nextStage, alike.column_eq, alike.side_eq]
  cases specs with
  | nil =>
      rfl
  | cons first rest =>
      rw [chain, chain, sameStage, firstStage, firstStage, alike.column_eq,
        alike.side_eq]

theorem describe_eq
    {α : Type}
    (alike : sources.Alike others)
    (find : String → Table → Outcome (Assoc α))
    (names : List String) :
    sources.describe find names = others.describe find names := by
  unfold describe
  rw [alike.tables, alike.column_eq]

end Alike

end Join.Sources

/-- A join answers the same under the same aliases. -/
theorem performJoin_eq_of_alike
    (settings : Settings)
    {sources others : Sources}
    (alike : sources.Alike others)
    (specs : List JoinSpec) :
    performJoin settings sources specs = performJoin settings others specs := by
  have sameMissing : sources.missing specs = others.missing specs := by
    rw [missing, missing, alike.tables]
  have sameTable : joinedTable sources specs = joinedTable others specs := by
    funext types kinds
    rw [joinedTable, joinedTable, alike.chain_eq]
  simp only [performJoin, performJoinWith, sameMissing, sameTable,
    alike.describe_eq]

/-- A join of loaded tables answers exactly when the columns of all of them can be described. -/
theorem performJoin_answers_iff
    (settings : Settings)
    {sources : Sources}
    {specs : List JoinSpec}
    (hasStages : specs ≠ [])
    (loaded : ∀ name ∈ namesOf specs, sources.tables.contains name) :
    (∃ joined, performJoin settings sources specs = .ok joined) ↔
      ∀ name ∈ namesOf specs, ∀ table,
        sources.tables.find? name = some table →
          (∃ types, table.types settings = .ok types) ∧
            ∃ kinds, table.smartTypes settings = .ok kinds := by
  have typesFound :=
    sources.describe_succeeds_iff
      (fun _ table => table.types settings) (namesOf specs)
  have kindsFound :=
    sources.describe_succeeds_iff
      (fun _ table => table.smartTypes settings) (namesOf specs)
  rw [performJoin_of_loaded settings hasStages loaded]
  simp only [Outcome.bind_eq_ok_iff, Outcome.pure_eq_ok_iff]
  constructor
  · rintro ⟨joined, types, typesAre, kinds, kindsAre, _⟩ name member table found
    exact
      ⟨typesFound.mp ⟨types, typesAre⟩ name member table found,
        kindsFound.mp ⟨kinds, kindsAre⟩ name member table found⟩
  · intro both
    obtain ⟨types, typesAre⟩ :=
      typesFound.mpr fun name member table found =>
        (both name member table found).1
    obtain ⟨kinds, kindsAre⟩ :=
      kindsFound.mpr fun name member table found =>
        (both name member table found).2
    exact ⟨_, types, typesAre, kinds, kindsAre, rfl⟩

/--
A join of loaded tables with pairwise distinct columns answers exactly when the types and kinds of
all its tables are found. Its rows are then the lines of the nested loops in their order, and every
row has exactly the columns of the tables, in the order of the stages.
-/
theorem performJoin_rows_eq_nestedLoop
    (settings : Settings)
    (sources : Sources)
    (specs : List JoinSpec)
    (hasStages : specs ≠ [])
    (loaded : ∀ name ∈ namesOf specs, sources.tables.contains name)
    (distinct : (sources.stageColumns specs).Nodup) :
    ((∃ joined, performJoin settings sources specs = .ok joined) ↔
        ∀ name ∈ namesOf specs, ∀ table,
          sources.tables.find? name = some table →
            (∃ types, table.types settings = .ok types) ∧
              ∃ kinds, table.smartTypes settings = .ok kinds) ∧
      ∀ joined, performJoin settings sources specs = .ok joined →
        joined.table.rows.map Assoc.entries =
            (sources.nestedLoop specs).lines ∧
          joined.table.columns = sources.stageColumns specs ∧
          ∀ row ∈ joined.table.rows,
            row.keys = sources.stageColumns specs := by
  have shown := sources.shownBy_nestedLoop distinct
  have columns : (chain sources specs).columns = sources.stageColumns specs := by
    rw [← shown.columns, columns_nestedLoop]
  refine ⟨performJoin_answers_iff settings hasStages loaded, ?_⟩
  intro joined answered
  obtain ⟨sameColumns, sameRows⟩ :=
    chain_of_performJoin hasStages loaded answered
  refine ⟨?_, ?_, ?_⟩
  · rw [sameRows, shown.lines]
  · rw [sameColumns, columns]
  · intro row member
    rw [sameRows] at member
    rw [shown.keys row member, columns]

namespace Join.Sample

/-- A table of one column whose description is given, so that nothing is inferred. -/
def table (name : String) (keys : List Cell) : Table where
  name := some name
  columns := ["k"]
  rows := keys.map fun key => .ofList [("k", key)]
  typeSource := .given .empty
  kindSource := .given .empty

/-- Three tables with repeated keys, keys in both cases and empty keys. -/
def sources : Sources where
  tables :=
    .ofList
      [("a", table "a" [.text "X", .text "x", .text "y"]),
        ("b", table "b" [.text "x", .null, .text ""]),
        ("c", table "c" [.text "", .text "w"])]
  aliases := .ofList [("c", "last")]

/-- A full stage, and a right one whose left key is given by its full name. -/
def specs : List JoinSpec :=
  [{ leftTable := "a", leftColumn := "k", rightTable := "b", rightColumn := "k"
     joinType := .full },
    { leftTable := "c", leftColumn := "b.k", rightTable := "c", rightColumn := "k"
      joinType := .right }]

/-- The sample answers, and its lines are those of the nested loops. -/
theorem lines_of_sample :
    specs ≠ [] ∧
      (∀ name ∈ namesOf specs, sources.tables.contains name) ∧
      (sources.stageColumns specs).Nodup ∧
      ∃ joined, performJoin {} sources specs = .ok joined ∧
        joined.table.rows.map Assoc.entries =
          [[("a.k", .text "y"), ("b.k", .null), ("last.k", .text "")],
            [("a.k", .null), ("b.k", .null), ("last.k", .text "")],
            [("a.k", .null), ("b.k", .text ""), ("last.k", .text "")],
            [("a.k", .null), ("b.k", .null), ("last.k", .text "w")]] := by
  have hasStages : specs ≠ [] := by decide
  have loaded : ∀ name ∈ namesOf specs, sources.tables.contains name := by
    decide
  have distinct : (sources.stageColumns specs).Nodup := by decide +kernel
  obtain ⟨answers, rows⟩ :=
    performJoin_rows_eq_nestedLoop {} sources specs hasStages loaded distinct
  have described :
      ∀ entry ∈ sources.tables.entries,
        entry.2.typeSource = .given .empty ∧
          entry.2.kindSource = .given .empty := by
    decide +kernel
  obtain ⟨joined, answered⟩ := answers.mpr (by
    intro name _ table found
    have given := described _ (Assoc.find?_eq_some_iff.mp found)
    exact
      ⟨⟨_, by rw [Table.types, given.1]⟩,
        ⟨_, by rw [Table.smartTypes, given.2]⟩⟩)
  refine ⟨hasStages, loaded, distinct, joined, answered, ?_⟩
  rw [(rows joined answered).1]
  decide +kernel

end Join.Sample

end Tabular
