import Mathlib.Data.List.Nodup
import Mathlib.Data.List.Perm.Basic
import Tabular.Proofs.Join.Survival

namespace Tabular

open List

/-!
# Joins in the mirror

A join can be written down from either of its sides. Every stage is made of walks along one side
that put each row beside its partners on the other: a left join walks the left side, a right join
the right side, and a full join adds to the walk along the left side those rows that a walk along
the right side leaves alone. So a join from the other side has the same rows, read as maps from
columns to cells, and a one-sided join has them in the same order.
-/

/-- The type of the same join from the other side. -/
def JoinType.mirrored : JoinType → JoinType
  | .left => .right
  | .right => .left
  | joinType => joinType

/-- A stage of another type. -/
def JoinSpec.ofType (spec : JoinSpec) (joinType : JoinType) : JoinSpec :=
  { spec with joinType }

/-- The same stage from the other side. -/
def JoinSpec.mirrored (spec : JoinSpec) : JoinSpec where
  leftTable := spec.rightTable
  leftColumn := spec.rightColumn
  rightTable := spec.leftTable
  rightColumn := spec.leftColumn
  joinType := spec.joinType.mirrored

namespace Join

/-! ## Walks -/

/-- Each row with each of its partners, or with nothing if it has none and is kept. -/
def walk (keepAlone : Bool) (rows others : List Row) (key otherKey : String) :
    List (Row × Option Row) :=
  rows.flatMap fun row =>
    match rowsWithKey otherKey (keyOf (row.cell key)) others with
    | [] => if keepAlone then [(row, none)] else []
    | partners => partners.map fun partner => (row, some partner)

/-- What a stage makes of a pair that a walk along its left side comes to. -/
def besideLeft (left right : Side) (pair : Row × Option Row) : Row :=
  combine left right (some pair.1) pair.2

/-- What a stage makes of a pair that a walk along its right side comes to. -/
def besideRight (left right : Side) (pair : Row × Option Row) : Row :=
  combine left right pair.2 (some pair.1)

section Pairs

variable {α β γ : Type}

theorem map_filter_eq_flatMap
    (fits : α → Bool)
    (image : α → β)
    (elements : List α) :
    (elements.filter fits).map image =
      elements.flatMap fun element => if fits element then [image element] else [] := by
  induction elements with
  | nil =>
      rfl
  | cons element rest inductionHypothesis =>
      rw [filter_cons, flatMap_cons, ← inductionHypothesis]
      split <;> rfl

/-- Fitting pairs can be come to by their first members or by their second ones. -/
theorem perm_flatMap_filter_map
    (fits : α → β → Bool)
    (pair : α → β → γ)
    (firsts : List α)
    (seconds : List β) :
    (firsts.flatMap fun first => (seconds.filter (fits first)).map (pair first)).Perm
      (seconds.flatMap fun second => (firsts.filter (fits · second)).map (pair · second)) := by
  induction firsts with
  | nil =>
      simp
  | cons first rest inductionHypothesis =>
      rw [flatMap_cons, map_filter_eq_flatMap]
      refine ((inductionHypothesis.append_left _).trans (flatMap_append_perm seconds _ _)).trans
        (Perm.of_eq (flatMap_congr fun second _ => ?_))
      rw [filter_cons]
      split <;> rfl

end Pairs

section Walks

variable {rows others : List Row} {key otherKey : String}

/-- The pairs of a walk that have a partner are those of a walk that keeps no other rows. -/
theorem filter_isSome_walk :
    (walk true rows others key otherKey).filter (·.2.isSome) =
      walk false rows others key otherKey := by
  rw [walk, filter_flatMap, walk]
  refine flatMap_congr fun row _ => ?_
  cases rowsWithKey otherKey (keyOf (row.cell key)) others with
  | nil => rfl
  | cons first rest => exact filter_eq_self.mpr (by simp)

theorem walk_false_eq :
    walk false rows others key otherKey =
      rows.flatMap fun row =>
        (rowsWithKey otherKey (keyOf (row.cell key)) others).map fun partner =>
          (row, some partner) := by
  refine flatMap_congr fun row _ => ?_
  cases rowsWithKey otherKey (keyOf (row.cell key)) others <;> rfl

/-- The rows of a walk that are left alone are those without partners. -/
theorem filter_isNone_walk :
    (walk true rows others key otherKey).filter (·.2.isNone) =
      (rows.filter fun row =>
        (rowsWithKey otherKey (keyOf (row.cell key)) others).isEmpty).map (·, none) := by
  rw [walk, filter_flatMap]
  induction rows with
  | nil =>
      rfl
  | cons row rest inductionHypothesis =>
      rw [flatMap_cons, inductionHypothesis, filter_cons]
      cases rowsWithKey otherKey (keyOf (row.cell key)) others with
      | nil => rfl
      | cons first more => simp

/-- A walk comes to the rows with their partners and to the rows that are left alone. -/
theorem map_walk_perm
    {α : Type}
    (image : Row × Option Row → α) :
    ((walk true rows others key otherKey).map image).Perm
      ((walk false rows others key otherKey).map image ++
        ((walk true rows others key otherKey).filter (·.2.isNone)).map image) := by
  have parts := filter_append_perm (·.2.isSome) (walk true rows others key otherKey)
  rw [filter_isSome_walk] at parts
  simp only [Option.not_isSome] at parts
  rw [← map_append]
  exact parts.symm.map image

end Walks

section Stage

variable {left right : Side} {leftKey rightKey : String}

theorem leftWalk_eq
    (joinType : JoinType) :
    left.rows.flatMap (rowsForLeft left right leftKey joinType (indexBy rightKey right.rows)) =
      (walk joinType.keepsLeft left.rows right.rows leftKey rightKey).map
        (besideLeft left right) := by
  rw [walk, map_flatMap]
  refine flatMap_congr fun leftRow _ => ?_
  rw [rowsForLeft, matching_indexBy]
  cases rowsWithKey rightKey (keyOf (leftRow.cell leftKey)) right.rows with
  | nil => cases joinType.keepsLeft <;> rfl
  | cons first rest => simp [besideLeft]

theorem rightRows_eq :
    rightRows left right leftKey rightKey =
      (walk true right.rows left.rows rightKey leftKey).map (besideRight left right) := by
  rw [rightRows, walk, map_flatMap]
  refine flatMap_congr fun rightRow _ => ?_
  rw [matching_indexBy]
  cases rowsWithKey leftKey (keyOf (rightRow.cell rightKey)) left.rows with
  | nil => rfl
  | cons first rest => simp [besideRight]

/-- The rows that a full join adds are those that a walk along the right side leaves alone. -/
theorem alone_eq :
    (right.rows.filter fun row =>
        !(matchedKeys left leftKey (indexBy rightKey right.rows)).contains
          (keyOf (row.cell rightKey))).map (fun row => combine left right none (some row)) =
      ((walk true right.rows left.rows rightKey leftKey).filter (·.2.isNone)).map
        (besideRight left right) := by
  have sameRows :
      (right.rows.filter fun row =>
          !(matchedKeys left leftKey (indexBy rightKey right.rows)).contains
            (keyOf (row.cell rightKey))) =
        right.rows.filter fun row =>
          (rowsWithKey leftKey (keyOf (row.cell rightKey)) left.rows).isEmpty := by
    refine filter_congr fun row member => ?_
    rw [contains_matchedKeys leftKey rightKey member, Bool.eq_iff_iff, List.isEmpty_iff,
      rowsWithKey_eq_nil_iff]
    simp
  rw [sameRows, filter_isNone_walk, map_map]
  rfl

/-- Every stage is made of walks. -/
theorem stageRows_eq
    (joinType : JoinType) :
    stageRows left right leftKey rightKey joinType =
      match joinType with
      | .inner =>
          (walk false left.rows right.rows leftKey rightKey).map (besideLeft left right)
      | .left =>
          (walk true left.rows right.rows leftKey rightKey).map (besideLeft left right)
      | .right =>
          (walk true right.rows left.rows rightKey leftKey).map (besideRight left right)
      | .full =>
          (walk true left.rows right.rows leftKey rightKey).map (besideLeft left right) ++
            ((walk true right.rows left.rows rightKey leftKey).filter (·.2.isNone)).map
              (besideRight left right) := by
  cases joinType with
  | inner =>
      exact leftWalk_eq .inner
  | left =>
      exact leftWalk_eq .left
  | right =>
      exact rightRows_eq
  | full =>
      exact congrArg₂ (· ++ ·) (leftWalk_eq .full) alone_eq

/-! ## Either side first -/

variable (distinct : (left.columns ++ right.columns).Nodup)
include distinct

theorem find?_combine_mirrored
    (leftRow rightRow : Option Row) :
    (combine left right leftRow rightRow).find? = (combine right left rightRow leftRow).find? := by
  funext column
  apply Assoc.find?_eq_of_perm
  rw [entries_combine distinct, entries_combine (nodup_append_comm.mp distinct)]
  exact perm_append_comm

/-- The rows that a walk makes on the right side are those that it makes on the left side. -/
theorem find?_besideRight :
    Assoc.find? ∘ besideRight left right = Assoc.find? ∘ besideLeft right left :=
  funext fun pair => find?_combine_mirrored distinct pair.2 (some pair.1)

/-- A right stage has the rows of the left one from the other side. -/
theorem map_rightRows_mirrored :
    (stageRows left right leftKey rightKey .right).map Assoc.find? =
      (stageRows right left rightKey leftKey .left).map Assoc.find? := by
  rw [stageRows_eq, stageRows_eq, map_map, map_map, find?_besideRight distinct]

/-- The partners are the same from either side, in another order. -/
theorem perm_matched :
    ((walk false left.rows right.rows leftKey rightKey).map
        (Assoc.find? ∘ besideLeft left right)).Perm
      ((walk false right.rows left.rows rightKey leftKey).map
        (Assoc.find? ∘ besideLeft right left)) := by
  rw [walk_false_eq, walk_false_eq, map_flatMap, map_flatMap]
  simp only [map_map, rowsWithKey]
  refine (perm_flatMap_filter_map _ _ _ _).trans (Perm.of_eq (flatMap_congr fun rightRow _ => ?_))
  rw [filter_congr fun leftRow _ => BEq.comm]
  exact map_congr_left fun leftRow _ =>
    find?_combine_mirrored distinct (some leftRow) (some rightRow)

/-- A full stage has the rows of the one from the other side, in another order. -/
theorem perm_fullRows_mirrored :
    ((stageRows left right leftKey rightKey .full).map Assoc.find?).Perm
      ((stageRows right left rightKey leftKey .full).map Assoc.find?) := by
  have mirrored := nodup_append_comm.mp distinct
  rw [stageRows_eq, stageRows_eq, map_append, map_append, map_map, map_map, map_map, map_map,
    find?_besideRight distinct, find?_besideRight mirrored]
  refine ((map_walk_perm _).append_right _).trans
    (.trans ?_ ((map_walk_perm _).append_right _).symm)
  rw [append_assoc, append_assoc]
  exact (perm_matched distinct).append perm_append_comm

/-- A stage has the rows of the same stage from the other side. -/
theorem perm_stageRows_mirrored
    (joinType : JoinType) :
    ((stageRows left right leftKey rightKey joinType).map Assoc.find?).Perm
      ((stageRows right left rightKey leftKey joinType.mirrored).map Assoc.find?) := by
  have mirrored := nodup_append_comm.mp distinct
  cases joinType with
  | inner =>
      change
        ((stageRows left right leftKey rightKey .inner).map Assoc.find?).Perm
          ((stageRows right left rightKey leftKey .inner).map Assoc.find?)
      rw [stageRows_eq, stageRows_eq, map_map, map_map]
      exact perm_matched distinct
  | left =>
      rw [JoinType.mirrored, map_rightRows_mirrored mirrored]
  | right =>
      rw [JoinType.mirrored, map_rightRows_mirrored distinct]
  | full =>
      exact perm_fullRows_mirrored distinct

end Stage

end Join

/-! ## Joins of two tables -/

namespace Join.Sources

/-- The rows of the right table, each with its partners in the left one or with none. -/
def rightWalk (sources : Sources) (spec : JoinSpec) : List (Row × Option Row) :=
  walk true (sources.side spec.rightTable).rows (sources.side spec.leftTable).rows
    (sources.column spec.rightTable spec.rightColumn)
    (sources.column spec.leftTable spec.leftColumn)

/-- The row that a join makes of a row of the right table and its partner. -/
def besidePartner (sources : Sources) (spec : JoinSpec) (pair : Row × Option Row) : Row :=
  besideRight (sources.side spec.leftTable) (sources.side spec.rightTable) pair

end Join.Sources

open Join Join.Sources

section Tables

variable {settings : Settings} {sources : Sources} {spec : JoinSpec}

theorem rows_of_performJoin
    (spec : JoinSpec)
    (leftLoaded : sources.tables.contains spec.leftTable)
    (rightLoaded : sources.tables.contains spec.rightTable)
    {joined : Joined}
    (answered : performJoin settings sources [spec] = .ok joined) :
    joined.table.rows =
      stageRows (sources.side spec.leftTable) (sources.side spec.rightTable)
        (sources.column spec.leftTable spec.leftColumn)
        (sources.column spec.rightTable spec.rightColumn) spec.joinType := by
  have loaded : ∀ name ∈ namesOf [spec], sources.tables.contains name := by
    simp [namesOf, leftLoaded, rightLoaded]
  exact (chain_of_performJoin (cons_ne_nil spec []) loaded answered).2

/-- Two tables can be joined, in whichever way, exactly when both of them can be described. -/
theorem answers_iff_of_same_tables
    {asked : JoinSpec}
    (leftLoaded : sources.tables.contains spec.leftTable)
    (rightLoaded : sources.tables.contains spec.rightTable)
    (sameTables : (namesOf [asked]).Perm [spec.leftTable, spec.rightTable]) :
    (∃ joined, performJoin settings sources [asked] = .ok joined) ↔
      ∀ name ∈ [spec.leftTable, spec.rightTable], ∀ table,
        sources.tables.find? name = some table →
          (∃ types, table.types settings = .ok types) ∧
            ∃ kinds, table.smartTypes settings = .ok kinds := by
  have loaded : ∀ name ∈ namesOf [asked], sources.tables.contains name := by
    intro name member
    rcases mem_pair.mp (sameTables.mem_iff.mp member) with rfl | rfl
    · exact leftLoaded
    · exact rightLoaded
  rw [performJoin_answers_iff settings (cons_ne_nil asked []) loaded]
  simp only [sameTables.mem_iff]

end Tables

/--
Two loaded tables with distinct columns under their aliases are joined from either side alike, and
whichever way they are joined, they can be when both of them can be described. Read as maps from
columns to cells, the rows are the same from either side, and in the same order if the join keeps
the rows of one side. A full join has the rows of the left join, followed by those rows of the right
join whose left columns are empty for want of a partner.
-/
theorem joins_from_either_side
    (settings : Settings)
    (sources : Sources)
    (spec : JoinSpec)
    (leftLoaded : sources.tables.contains spec.leftTable)
    (rightLoaded : sources.tables.contains spec.rightTable)
    (distinct :
      ((sources.side spec.leftTable).columns ++ (sources.side spec.rightTable).columns).Nodup) :
    (∀ joinType, ∀ asked ∈ [spec.ofType joinType, (spec.ofType joinType).mirrored],
      (∃ joined, performJoin settings sources [asked] = .ok joined) ↔
        ∀ name ∈ [spec.leftTable, spec.rightTable], ∀ table,
          sources.tables.find? name = some table →
            (∃ types, table.types settings = .ok types) ∧
              ∃ kinds, table.smartTypes settings = .ok kinds) ∧
      (∀ joinType joined mirrored,
        performJoin settings sources [spec.ofType joinType] = .ok joined →
          performJoin settings sources [(spec.ofType joinType).mirrored] = .ok mirrored →
            (joined.table.rows.map Assoc.find?).Perm (mirrored.table.rows.map Assoc.find?) ∧
              (joinType = .left ∨ joinType = .right →
                joined.table.rows.map Assoc.find? = mirrored.table.rows.map Assoc.find?)) ∧
      ∀ full left right,
        performJoin settings sources [spec.ofType .full] = .ok full →
          performJoin settings sources [spec.ofType .left] = .ok left →
            performJoin settings sources [spec.ofType .right] = .ok right →
              right.table.rows =
                  (sources.rightWalk spec).map (sources.besidePartner spec) ∧
                full.table.rows =
                  left.table.rows ++
                    ((sources.rightWalk spec).filter (·.2.isNone)).map
                      (sources.besidePartner spec) := by
  refine ⟨fun joinType asked member => ?_, fun joinType joined mirrored answered answeredToo => ?_,
    fun full left right isFull isLeft isRight => ?_⟩
  · apply answers_iff_of_same_tables leftLoaded rightLoaded
    rcases mem_pair.mp member with rfl | rfl
    · exact .refl _
    · exact .swap ..
  · have rows := rows_of_performJoin (spec.ofType joinType) leftLoaded rightLoaded answered
    have rowsToo :=
      rows_of_performJoin (spec.ofType joinType).mirrored rightLoaded leftLoaded answeredToo
    rw [rows, rowsToo]
    refine ⟨perm_stageRows_mirrored distinct joinType, ?_⟩
    rintro (rfl | rfl)
    · exact (map_rightRows_mirrored (nodup_append_comm.mp distinct)).symm
    · exact map_rightRows_mirrored distinct
  · rw [rows_of_performJoin (spec.ofType .full) leftLoaded rightLoaded isFull,
      rows_of_performJoin (spec.ofType .left) leftLoaded rightLoaded isLeft,
      rows_of_performJoin (spec.ofType .right) leftLoaded rightLoaded isRight]
    exact
      ⟨stageRows_eq .right,
        (stageRows_eq .full).trans (congrArg (· ++ _) (stageRows_eq .left).symm)⟩

namespace Join.Sample

/-- Rows of the first table and of the second one that have the same key, up to case. -/
def pairing : JoinSpec where
  leftTable := "a"
  leftColumn := "k"
  rightTable := "b"
  rightColumn := "k"

/-- The pairing from either side, and what a full join adds to a left one. -/
theorem pairing_from_either_side :
    sources.tables.contains pairing.leftTable ∧
      sources.tables.contains pairing.rightTable ∧
      ((sources.side pairing.leftTable).columns ++
        (sources.side pairing.rightTable).columns).Nodup ∧
      ∃ right leftMirrored full fullMirrored left,
        performJoin {} sources [pairing.ofType .right] = .ok right ∧
          performJoin {} sources [(pairing.ofType .right).mirrored] = .ok leftMirrored ∧
          right.table.rows.map Assoc.find? = leftMirrored.table.rows.map Assoc.find? ∧
          performJoin {} sources [pairing.ofType .full] = .ok full ∧
          performJoin {} sources [(pairing.ofType .full).mirrored] = .ok fullMirrored ∧
          (full.table.rows.map Assoc.find?).Perm (fullMirrored.table.rows.map Assoc.find?) ∧
          performJoin {} sources [pairing.ofType .left] = .ok left ∧
          full.table.rows.map Assoc.entries =
            left.table.rows.map Assoc.entries ++
              [[("a.k", .null), ("b.k", .null)], [("a.k", .null), ("b.k", .text "")]] := by
  have leftLoaded : sources.tables.contains pairing.leftTable := by decide
  have rightLoaded : sources.tables.contains pairing.rightTable := by decide
  have distinct :
      ((sources.side pairing.leftTable).columns ++
        (sources.side pairing.rightTable).columns).Nodup := by
    decide +kernel
  obtain ⟨answers, mirrored, adds⟩ :=
    joins_from_either_side {} sources pairing leftLoaded rightLoaded distinct
  have described :
      ∀ entry ∈ sources.tables.entries,
        entry.2.typeSource = .given .empty ∧ entry.2.kindSource = .given .empty := by
    decide +kernel
  have areDescribed :
      ∀ name ∈ [pairing.leftTable, pairing.rightTable], ∀ table,
        sources.tables.find? name = some table →
          (∃ types, table.types {} = .ok types) ∧ ∃ kinds, table.smartTypes {} = .ok kinds := by
    intro name _ table found
    have given := described _ (Assoc.find?_eq_some_iff.mp found)
    exact
      ⟨⟨_, by rw [Table.types, given.1]⟩,
        ⟨_, by rw [Table.smartTypes, given.2]⟩⟩
  have answersAs (joinType : JoinType) :=
    (answers joinType _ mem_cons_self).mpr areDescribed
  have answersMirrored (joinType : JoinType) :=
    (answers joinType _ (mem_cons_of_mem _ mem_cons_self)).mpr areDescribed
  obtain ⟨right, isRight⟩ := answersAs .right
  obtain ⟨leftMirrored, isLeftMirrored⟩ := answersMirrored .right
  obtain ⟨full, isFull⟩ := answersAs .full
  obtain ⟨fullMirrored, isFullMirrored⟩ := answersMirrored .full
  obtain ⟨left, isLeft⟩ := answersAs .left
  refine ⟨leftLoaded, rightLoaded, distinct, right, leftMirrored, full, fullMirrored, left, isRight,
    isLeftMirrored, (mirrored .right _ _ isRight isLeftMirrored).2 (.inr rfl), isFull,
    isFullMirrored, (mirrored .full _ _ isFull isFullMirrored).1, isLeft, ?_⟩
  have alone :
      (((sources.rightWalk pairing).filter (·.2.isNone)).map
          (sources.besidePartner pairing)).map Assoc.entries =
        [[("a.k", .null), ("b.k", .null)], [("a.k", .null), ("b.k", .text "")]] := by
    decide +kernel
  rw [(adds full left right isFull isLeft isRight).2, map_append, alone]

end Join.Sample

end Tabular
