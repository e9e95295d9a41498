import Mathlib.Data.List.DropRight
import Tabular.Text.Blank

namespace Tabular.Text

/-!
# Texts cut at blanks and separators

A text loses the blanks at its ends, and it falls into pieces where its separators are.
-/

/-!
## Trimming again

A text without blanks at its ends has none to lose: after the blanks at the front those at the back
are taken off, and the first character that was left stays the first one.
-/

theorem trimBoth_eq_rdropWhile
    (characters : List Char) :
    trimBoth characters = (trimFront characters).rdropWhile isBlankCharacter :=
  rfl

/-- What is left of a text begins with no blank. -/
theorem trimFront_trimBoth
    (characters : List Char) :
    trimFront (trimBoth characters) = trimBoth characters := by
  rw [trimBoth_eq_rdropWhile, trimFront, List.dropWhile_eq_self_iff]
  intro nonempty blank
  have isPrefix := List.rdropWhile_prefix isBlankCharacter (trimFront characters)
  have sameFirst := isPrefix.getElem nonempty
  have firstIsNone :=
    List.dropWhile_get_zero_not isBlankCharacter characters (nonempty.trans_le isPrefix.length_le)
  rw [sameFirst] at blank
  exact firstIsNone blank

theorem trimBoth_trimBoth
    (characters : List Char) :
    trimBoth (trimBoth characters) = trimBoth characters := by
  rw [trimBoth_eq_rdropWhile (trimBoth characters), trimFront_trimBoth, trimBoth_eq_rdropWhile,
    List.rdropWhile_idempotent]

theorem trimBoth_of_no_blanks
    {characters : List Char}
    (noBlanks : ∀ character ∈ characters, isBlankCharacter character = false) :
    trimBoth characters = characters := by
  have front : trimFront characters = characters := by
    rw [trimFront, List.dropWhile_eq_self_iff]
    intro nonempty
    rw [noBlanks _ (List.getElem_mem nonempty)]
    exact Bool.false_ne_true
  rw [trimBoth_eq_rdropWhile, front, List.rdropWhile_eq_self_iff]
  intro nonempty
  rw [noBlanks _ (List.getLast_mem nonempty)]
  exact Bool.false_ne_true

/-- Only blanks are taken off. -/
theorem mem_trimBoth
    {character : Char}
    {characters : List Char}
    (member : character ∈ characters)
    (notBlank : isBlankCharacter character = false) :
    character ∈ trimBoth characters := by
  have mem_trimFront
      {characters : List Char}
      (member : character ∈ characters) :
      character ∈ trimFront characters := by
    rw [← List.takeWhile_append_dropWhile (p := isBlankCharacter) (l := characters),
      List.mem_append] at member
    refine member.resolve_left fun isTaken => ?_
    rw [List.mem_takeWhile_imp isTaken] at notBlank
    cases notBlank
  exact List.mem_reverse.mpr (mem_trimFront (List.mem_reverse.mpr (mem_trimFront member)))

/-- A trimmed text is trimmed. -/
theorem trim_trim
    (text : String) :
    trim (trim text) = trim text := by
  rw [trim, trim, String.toList_ofList, trimBoth_trimBoth]

/-!
## Pieces between separators

The pieces of a text between its separators have no separator in them, and with separators between
them they make up the text again. There are no other pieces like that, so a text can be told by its
pieces and its pieces by the text.
-/

/-- Some pieces without separators in them, which make up the text with separators between them. -/
structure IsCut (separator : Char) (characters : List Char) (pieces : List (List Char)) : Prop where
  nonempty : pieces ≠ []
  apart : ∀ piece ∈ pieces, separator ∉ piece
  joined : [separator].intercalate pieces = characters

variable {separator : Char} {characters : List Char} {pieces : List (List Char)}

/-- Texts are cut as lists are split. -/
theorem piecesAt_eq_splitOn :
    piecesAt separator characters = characters.splitOn separator := by
  induction characters with
  | nil =>
      rw [piecesAt, List.splitOn_nil]
  | cons character rest inductionHypothesis =>
      rw [piecesAt, List.splitOn_cons_eq_if_modifyHead, inductionHypothesis]
      by_cases isSeparator : character = separator
      · rw [if_pos isSeparator, if_pos (beq_iff_eq.mpr isSeparator)]
      · rw [if_neg isSeparator, if_neg (mt beq_iff_eq.mp isSeparator)]
        obtain ⟨piece, others, isSplit⟩ :=
          List.exists_cons_of_ne_nil (List.splitOn_ne_nil separator rest)
        rw [isSplit, List.modifyHead_cons]

theorem not_mem_of_mem_piecesAt
    {piece : List Char}
    (isPiece : piece ∈ piecesAt separator characters) :
    separator ∉ piece := by
  induction characters generalizing piece with
  | nil =>
      rw [List.mem_singleton.mp isPiece]
      exact List.not_mem_nil
  | cons character rest inductionHypothesis =>
      rw [piecesAt] at isPiece
      split at isPiece
      · rcases List.mem_cons.mp isPiece with rfl | isLater
        · exact List.not_mem_nil
        · exact inductionHypothesis isLater
      · next other =>
          split at isPiece
          · rw [List.mem_singleton.mp isPiece, List.mem_singleton]
            exact Ne.symm other
          · next first others areOthers =>
              rw [areOthers] at inductionHypothesis
              rcases List.mem_cons.mp isPiece with rfl | isLater
              · rw [List.mem_cons, not_or]
                exact ⟨Ne.symm other, inductionHypothesis List.mem_cons_self⟩
              · exact inductionHypothesis (List.mem_cons_of_mem first isLater)

theorem isCut_piecesAt
    (separator : Char)
    (characters : List Char) :
    IsCut separator characters (piecesAt separator characters) where
  nonempty := piecesAt_eq_splitOn ▸ List.splitOn_ne_nil separator characters
  apart _ := not_mem_of_mem_piecesAt
  joined := by
    rw [piecesAt_eq_splitOn, List.intercalate_splitOn]

/-- A text can be cut in one way only. -/
theorem IsCut.piecesAt_eq
    (isCut : IsCut separator characters pieces) :
    piecesAt separator characters = pieces := by
  rw [piecesAt_eq_splitOn, ← isCut.joined,
    List.splitOn_intercalate separator isCut.apart isCut.nonempty]

end Tabular.Text
