import Tabular.Proofs.Filter.Answers
import Tabular.Proofs.Text.Pieces

namespace Tabular

/-!
# Comparing with listed texts

To ask whether a cell is one of the texts that a value lists is to ask for each of them whether the
cell is that text, and to be content with one. The listed texts are what stands between the commas
of what the value shows, without the blanks around it; a value that shows nothing lists the empty
text. Case plays no part in this, since a text is cut before it is put into lower case on both
sides.
-/

namespace FilterNode

/-- For each of several texts, the condition that compares a column with it once it is trimmed. -/
def pieceConditions (ids : Nat → String) (field operator : String) (pieces : List String) :
    List FilterNode :=
  pieces.mapIdx fun place piece =>
    .condition
      { id := ids place
        field := some field
        operator := some operator
        value := .text (Text.trim piece) }

variable {caseSensitive : Bool} {row : Row} {field operator : String} {asked : TextOperator}

/-- A comparison of a column by its texts answers. -/
theorem evaluate_comparison
    (named : Operator.ofName? operator = some (.onText asked))
    (noPattern : asked ≠ .matchesPattern)
    (id : String)
    (value : Cell) :
    evaluate caseSensitive row
        (.condition { id, field := some field, operator := some operator, value }) =
      .ok
        { holds :=
            field == "" ||
              asked.holds caseSensitive (folded caseSensitive (row.cell field).display)
                (folded caseSensitive value.display) value.display } := by
  rw [evaluate]
  exact Condition.evaluate_of_onText named noPattern

/-- Each of the conditions answers how its text compares. -/
theorem answers_pieceConditions
    (named : Operator.ofName? operator = some (.onText asked))
    (noPattern : asked ≠ .matchesPattern)
    (ids : Nat → String)
    (pieces : List String) :
    List.Forall₂ (fun member met => evaluate caseSensitive row member = .ok { holds := met })
      (pieceConditions ids field operator pieces)
      (pieces.map fun piece =>
        field == "" ||
          asked.holds caseSensitive (folded caseSensitive (row.cell field).display)
            (folded caseSensitive (Text.trim piece)) (Text.trim piece)) := by
  induction pieces generalizing ids with
  | nil =>
      exact .nil
  | cons piece rest inductionHypothesis =>
      rw [pieceConditions, List.mapIdx_cons, List.map_cons]
      exact .cons (evaluate_comparison named noPattern _ _)
        (inductionHypothesis fun place => ids (place + 1))

end FilterNode

section Listed

variable {caseSensitive : Bool} {value : Cell} {pieces : List String}

/-- The listed texts are the trimmed pieces. -/
theorem commaPieces_eq
    {text : String}
    (areCut : Text.IsCut ',' text.toList (pieces.map String.toList)) :
    commaPieces text = pieces.map Text.trim := by
  rw [commaPieces, Text.split, areCut.piecesAt_eq, List.map_map]
  simp [Function.comp_def]

theorem isOneOf_holds
    (areCut : Text.IsCut ',' value.display.toList (pieces.map String.toList))
    (left right : String) :
    TextOperator.isOneOf.holds caseSensitive left right value.display =
      pieces.any fun piece => left == folded caseSensitive (Text.trim piece) := by
  rw [TextOperator.holds, commaPieces_eq areCut, List.contains_eq_any_beq, List.any_map,
    List.any_map]
  rfl

theorem isNotOneOf_holds
    (areCut : Text.IsCut ',' value.display.toList (pieces.map String.toList))
    (left right : String) :
    TextOperator.isNotOneOf.holds caseSensitive left right value.display =
      pieces.all fun piece => left != folded caseSensitive (Text.trim piece) := by
  have negated :
      TextOperator.isNotOneOf.holds caseSensitive left right value.display =
        !TextOperator.isOneOf.holds caseSensitive left right value.display :=
    rfl
  rw [negated, isOneOf_holds areCut, List.not_any_eq_all_not]
  rfl

end Listed

/--
Whether a cell is in a list of texts is answered as by the group that wants any of the conditions
that it is a text of the list, and whether it is not in the list as by the group that wants all of
the conditions that it is not. The texts of the list are the pieces between the commas of what the
value shows, each trimmed.
-/
theorem listing_is_comparing_with_each
    (caseSensitive : Bool)
    (row : Row)
    (id field : String)
    (value : Cell)
    {pieces : List String}
    (areCut : Text.IsCut ',' value.display.toList (pieces.map String.toList))
    (group : String)
    (ids : Nat → String) :
    (∃ listed,
      FilterNode.evaluate caseSensitive row
          (.condition { id, field := some field, operator := some "in", value }) =
          .ok { holds := listed } ∧
        FilterNode.evaluate caseSensitive row
            (.group group .any (FilterNode.pieceConditions ids field "is" pieces)) =
          .ok { holds := listed }) ∧
      ∃ unlisted,
        FilterNode.evaluate caseSensitive row
            (.condition { id, field := some field, operator := some "not in", value }) =
            .ok { holds := unlisted } ∧
          FilterNode.evaluate caseSensitive row
              (.group group .all (FilterNode.pieceConditions ids field "is not" pieces)) =
            .ok { holds := unlisted } := by
  have listsSome : pieces ≠ [] := mt List.map_eq_nil_iff.mpr areCut.nonempty
  have asksSome (operator : String) :
      FilterNode.pieceConditions ids field operator pieces ≠ [] := by
    simpa [FilterNode.pieceConditions] using listsSome
  have namesIs : Operator.ofName? "is" = some (.onText .is) := rfl
  have namesIsNot : Operator.ofName? "is not" = some (.onText .isNot) := rfl
  have namesIn : Operator.ofName? "in" = some (.onText .isOneOf) := rfl
  have namesNotIn : Operator.ofName? "not in" = some (.onText .isNotOneOf) := rfl
  constructor
  · refine ⟨_, FilterNode.evaluate_comparison namesIn nofun id value, ?_⟩
    rw [FilterNode.evaluate_group_of_answers .any (asksSome "is")
      (FilterNode.answers_pieceConditions namesIs nofun ids pieces), isOneOf_holds areCut]
    cases field == "" with
    | true =>
        simp [Logic.combineMembers, listsSome]
    | false =>
        simp [Logic.combineMembers, TextOperator.holds]
  · refine ⟨_, FilterNode.evaluate_comparison namesNotIn nofun id value, ?_⟩
    rw [FilterNode.evaluate_group_of_answers .all (asksSome "is not")
      (FilterNode.answers_pieceConditions namesIsNot nofun ids pieces), isNotOneOf_holds areCut]
    cases field == "" with
    | true =>
        simp [Logic.combineMembers]
    | false =>
        simp [Logic.combineMembers, TextOperator.holds]

/-- An order that has been sent is in a list of states that is written with blanks and capitals. -/
theorem listing_of_states :
    Text.IsCut ',' (Cell.text ", Sent ").display.toList (["", " Sent "].map String.toList) ∧
      (∃ listed,
        FilterNode.evaluate false (FilterNode.Sample.order "Oslo" "sent")
            (.condition
              { id := "c"
                field := some "state"
                operator := some "in"
                value := .text ", Sent " }) =
            .ok { holds := listed } ∧
          FilterNode.evaluate false (FilterNode.Sample.order "Oslo" "sent")
              (.group "g" .any
                (FilterNode.pieceConditions (fun _ => "m") "state" "is" ["", " Sent "])) =
            .ok { holds := listed }) ∧
        ∃ unlisted,
          FilterNode.evaluate false (FilterNode.Sample.order "Oslo" "sent")
              (.condition
                { id := "c"
                  field := some "state"
                  operator := some "not in"
                  value := .text ", Sent " }) =
              .ok { holds := unlisted } ∧
            FilterNode.evaluate false (FilterNode.Sample.order "Oslo" "sent")
                (.group "g" .all
                  (FilterNode.pieceConditions (fun _ => "m") "state" "is not" ["", " Sent "])) =
              .ok { holds := unlisted } := by
  have areCut :
      Text.IsCut ',' (Cell.text ", Sent ").display.toList (["", " Sent "].map String.toList) :=
    ⟨by decide, by decide, by decide⟩
  exact ⟨areCut, listing_is_comparing_with_each false _ "c" "state" _ areCut "g" fun _ => "m"⟩

end Tabular
