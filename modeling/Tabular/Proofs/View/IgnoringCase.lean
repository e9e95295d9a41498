import Tabular.Proofs.Filter.Validation
import Tabular.Proofs.Text.LowerCase
import Tabular.Proofs.View.Parts

namespace Tabular

/-!
# Matches when case is ignored

Case is ignored by comparing texts in lower case. Equal texts stay equal so, and a listed text stays
listed. But a text that stands inside of another one need not do so in lower case, when one of its
capital sigmas ends a word in the one text and not in the other. This is all that can go wrong.
-/

open Text

/-- The condition that compares a column with a text. -/
def Condition.onText (id field operator value : String) : Condition :=
  { id, field := some field, operator := some operator, value := .text value }

/-- A row is found to satisfy the condition. -/
def Condition.Matches (condition : Condition) (caseSensitive : Bool) (row : Row) : Prop :=
  ∃ verdict, condition.evaluate caseSensitive row = .ok verdict ∧ verdict.holds = true

/-- What a row shows in a column. -/
abbrev Row.shown (row : Row) (field : String) : String :=
  (row.cell field).display

namespace Condition

variable {id field operator value : String} {caseSensitive : Bool} {row : Row}

/-- A condition without a column does not restrict. -/
theorem matches_onText_of_unfinished
    {asked : TextOperator}
    (named : Operator.ofName? operator = some (.onText asked))
    (unfinished : field = "") :
    (onText id field operator value).Matches caseSensitive row := by
  subst unfinished
  refine ⟨{ holds := true }, ?_, rfl⟩
  rw [evaluate, onText, Option.bind_some, named]
  rfl

/-- A condition matches when it has no column or the compared texts pass its operator. -/
theorem matches_onText_iff
    {asked : TextOperator}
    (named : Operator.ofName? operator = some (.onText asked))
    (noPattern : asked ≠ .matchesPattern) :
    (onText id field operator value).Matches caseSensitive row ↔
      field = "" ∨
        asked.holds caseSensitive (folded caseSensitive (row.shown field))
          (folded caseSensitive value) value = true := by
  by_cases unfinished : field = ""
  · exact iff_of_true (matches_onText_of_unfinished named unfinished) (.inl unfinished)
  have evaluated :
      (onText id field operator value).evaluate caseSensitive row =
        asked.compare caseSensitive (row.cell field) (.text value) := by
    have isFinished : (onText id field operator value).isUnfinished = false := by
      simpa [onText, isUnfinished] using unfinished
    rw [evaluate, isFinished]
    simp only [onText, Option.bind_some, named]
    rfl
  have compared :
      asked.compare caseSensitive (row.cell field) (.text value) =
        .ok
          { holds :=
              asked.holds caseSensitive (folded caseSensitive (row.shown field))
                (folded caseSensitive value) value } := by
    cases asked with
    | matchesPattern => exact absurd rfl noPattern
    | _ => rfl
  rw [Matches, evaluated, compared]
  simp [unfinished]

/-- Equal texts are equal in lower case. -/
theorem matches_is_ignoring_case
    (exactly : (onText id field "is" value).Matches true row) :
    (onText id field "is" value).Matches false row := by
  have named : Operator.ofName? "is" = some (.onText .is) := rfl
  rw [matches_onText_iff named nofun] at exactly ⊢
  refine exactly.imp_right fun isEqual => ?_
  have same : row.shown field = value := eq_of_beq isEqual
  rw [same]
  exact beq_self_eq_true _

/-- Listed texts are listed in lower case. -/
theorem matches_in_ignoring_case
    (exactly : (onText id field "in" value).Matches true row) :
    (onText id field "in" value).Matches false row := by
  have named : Operator.ofName? "in" = some (.onText .isOneOf) := rfl
  rw [matches_onText_iff named nofun] at exactly ⊢
  refine exactly.imp_right fun isListed => ?_
  have listed : row.shown field ∈ (commaPieces value).map (folded true) :=
    List.contains_iff_mem.mp isListed
  have isPiece : row.shown field ∈ commaPieces value := by
    simpa [folded] using listed
  exact List.contains_iff_mem.mpr (List.mem_map_of_mem isPiece)

/-- A beginning is told apart from one in lower case by the sigmas that turn. -/
theorem matches_startswith_ignoring_case_iff
    (exactly : (onText id field "startswith" value).Matches true row) :
    (onText id field "startswith" value).Matches false row ↔
      field = "" ∨
        ∃ after, (row.shown field).toList = value.toList ++ after ∧
          ¬SigmaTurns [] value.toList after := by
  have named : Operator.ofName? "startswith" = some (.onText .startsWith) := rfl
  have inLowerCase :
      TextOperator.holds .startsWith false (folded false (row.shown field)) (folded false value)
          value =
        (lowerFrom false value.toList).isPrefixOf (lowerFrom false (row.shown field).toList) := by
    simp [TextOperator.holds, folded, lower]
  rw [matches_onText_iff named nofun] at exactly ⊢
  obtain unfinished | isPrefix := exactly
  · exact iff_of_true (.inl unfinished) (.inl unfinished)
  · obtain ⟨after, split⟩ : value.toList <+: (row.shown field).toList :=
      List.isPrefixOf_iff_prefix.mp isPrefix
    rw [inLowerCase, List.isPrefixOf_iff_prefix, ← split, lowerFrom_isPrefix_iff]
    simp

/-- An end is told apart from one in lower case by the sigmas that turn. -/
theorem matches_endswith_ignoring_case_iff
    (exactly : (onText id field "endswith" value).Matches true row) :
    (onText id field "endswith" value).Matches false row ↔
      field = "" ∨
        ∃ before, (row.shown field).toList = before ++ value.toList ∧
          ¬SigmaTurns before value.toList [] := by
  have named : Operator.ofName? "endswith" = some (.onText .endsWith) := rfl
  have inLowerCase :
      TextOperator.holds .endsWith false (folded false (row.shown field)) (folded false value)
          value =
        (lowerFrom false value.toList).isSuffixOf (lowerFrom false (row.shown field).toList) := by
    simp [TextOperator.holds, folded, lower]
  rw [matches_onText_iff named nofun] at exactly ⊢
  obtain unfinished | isSuffix := exactly
  · exact iff_of_true (.inl unfinished) (.inl unfinished)
  · obtain ⟨before, split⟩ : value.toList <:+ (row.shown field).toList :=
      List.isSuffixOf_iff_suffix.mp isSuffix
    rw [inLowerCase, List.isSuffixOf_iff_suffix, ← split, lowerFrom_isSuffix_iff]
    simp

/-- A contained text is looked for in lower case. -/
theorem matches_contains_ignoring_case_iff :
    (onText id field "contains" value).Matches false row ↔
      field = "" ∨ StandsUnturned value.toList (row.shown field).toList ∨
        StandsElsewhere value.toList (row.shown field).toList := by
  have named : Operator.ofName? "contains" = some (.onText .contains) := rfl
  have inLowerCase :
      TextOperator.holds .contains false (folded false (row.shown field)) (folded false value)
          value =
        occursIn (lowerFrom false value.toList) (lowerFrom false (row.shown field).toList) := by
    simp [TextOperator.holds, folded, lower]
  rw [matches_onText_iff named nofun, inLowerCase, occursIn_iff_isInfix, lowerFrom_isInfix_iff]

end Condition

/-- A row of a table is found by the cells that show the term in lower case. -/
theorem mem_searchRows_ignoring_case_iff
    {table : Table}
    {term : String}
    {row : Row}
    (inTable : row ∈ table.rows) :
    row ∈ (searchRows false term table).rows ↔
      term = "" ∨
        ∃ cell ∈ row.values,
          StandsUnturned term.toList cell.display.toList ∨
            StandsElsewhere term.toList cell.display.toList := by
  rw [searchRows]
  split
  · next isEmpty =>
      exact iff_of_true inTable (.inl (String.isEmpty_iff.mp isEmpty))
  · next isTerm =>
      rw [String.isEmpty_iff] at isTerm
      simp only [Table.derive, List.mem_filter, inTable, true_and, isTerm, false_or, Row.shows,
        List.any_eq_true, Bool.false_eq_true, ↓reduceIte, occursIn_iff_isInfix, lower,
        String.toList_ofList, lowerFrom_isInfix_iff]

/-- What becomes of the exact matches of a text in a column when case is ignored. -/
structure Condition.IgnoresCase (row : Row) (id field value : String) : Prop where
  /-- Equal and listed texts are still matched. -/
  whole : ∀ operator ∈ ["is", "in"],
    (onText id field operator value).Matches true row →
      (onText id field operator value).Matches false row
  /-- A beginning is still matched exactly if its sigmas stay. -/
  startsWith : (onText id field "startswith" value).Matches true row →
    ((onText id field "startswith" value).Matches false row ↔
      field = "" ∨
        ∃ after, (row.shown field).toList = value.toList ++ after ∧
          ¬SigmaTurns [] value.toList after)
  /-- An end is still matched exactly if its sigmas stay. -/
  endsWith : (onText id field "endswith" value).Matches true row →
    ((onText id field "endswith" value).Matches false row ↔
      field = "" ∨
        ∃ before, (row.shown field).toList = before ++ value.toList ∧
          ¬SigmaTurns before value.toList [])
  /-- A contained text is still matched exactly if its sigmas stay somewhere, or by chance. -/
  contains : (onText id field "contains" value).Matches true row →
    ((onText id field "contains" value).Matches false row ↔
      field = "" ∨ StandsUnturned value.toList (row.shown field).toList ∨
        StandsElsewhere value.toList (row.shown field).toList)

theorem Condition.ignoresCase
    (row : Row)
    (id field value : String) :
    IgnoresCase row id field value where
  whole := by
    intro operator member
    rcases List.mem_pair.mp member with rfl | rfl
    · exact matches_is_ignoring_case
    · exact matches_in_ignoring_case
  startsWith := matches_startswith_ignoring_case_iff
  endsWith := matches_endswith_ignoring_case_iff
  contains _ := matches_contains_ignoring_case_iff

/--
Ignoring case loses exact matches only where a capital sigma turns: never one of an equal or listed
text, one of a beginning or an end exactly if a sigma of it turns there, and one of a text that is
contained or searched for exactly if one turns in every place where the text stands, and its lower
case does not stand elsewhere by chance.
-/
theorem ignoring_case_loses_only_where_sigmas_turn
    (row : Row)
    (id field value : String)
    (table : Table)
    (term : String) :
    Condition.IgnoresCase row id field value ∧
      ∀ found ∈ (searchRows true term table).rows,
        found ∈ (searchRows false term table).rows ↔
          term = "" ∨
            ∃ cell ∈ found.values,
              StandsUnturned term.toList cell.display.toList ∨
                StandsElsewhere term.toList cell.display.toList :=
  ⟨Condition.ignoresCase row id field value,
    fun _ exactly =>
      have inTable := (isPartOf_searchRows true term table).sublist.subset exactly
      mem_searchRows_ignoring_case_iff inTable⟩

namespace Search.Sample

/-- A hero whose name has two sigmas in a row. -/
def odysseus : Row :=
  .ofList [("name", .text "ΟΔΥΣΣΕΑΣ")]

/-- A table of one hero. -/
def heroes : Table :=
  .ofRows (some "heroes") [odysseus]

/-- The condition that a name starts with the first four letters of the hero. -/
abbrev startsAlike : Condition :=
  .onText "c" "name" "startswith" "ΟΔΥΣ"

/-- By the sigma that ends the beginning and not the name, the hero is only found if case counts. -/
theorem odysseus_is_lost :
    startsAlike.Matches true odysseus ∧ ¬startsAlike.Matches false odysseus ∧
      odysseus ∈ (searchRows true "ΟΔΥΣ" heroes).rows ∧
      odysseus ∉ (searchRows false "ΟΔΥΣ" heroes).rows ∧
      ∀ cell ∈ odysseus.values, ¬StandsUnturned "ΟΔΥΣ".toList cell.display.toList := by
  obtain ⟨conditions, searches⟩ :=
    ignoring_case_loses_only_where_sigmas_turn odysseus "c" "name" "ΟΔΥΣ" heroes "ΟΔΥΣ"
  have starts : startsAlike.Matches true odysseus := ⟨{ holds := true }, by decide +kernel, rfl⟩
  have turns : SigmaTurns [] "ΟΔΥΣ".toList "ΣΕΑΣ".toList :=
    .inr ⟨by decide +kernel, "ΟΔΥ".toList, [], by decide +kernel, by decide +kernel, nofun⟩
  have shown : (odysseus.shown "name").toList = "ΟΔΥΣ".toList ++ "ΣΕΑΣ".toList := by
    decide +kernel
  have lost : ¬startsAlike.Matches false odysseus := by
    rw [conditions.startsWith starts]
    rintro (isEmpty | ⟨after, split, stays⟩)
    · exact absurd isEmpty (by decide)
    · rw [shown] at split
      exact stays (List.append_cancel_left split ▸ turns)
  have found : odysseus ∈ (searchRows true "ΟΔΥΣ" heroes).rows := by
    decide +kernel
  have notFound : odysseus ∉ (searchRows false "ΟΔΥΣ" heroes).rows := by
    decide +kernel
  refine ⟨starts, lost, found, notFound, fun cell inRow stands => notFound ?_⟩
  exact (searches odysseus found).mpr (.inr ⟨cell, inRow, .inl stands⟩)

end Search.Sample

end Tabular
