import Mathlib.Data.List.Forall2
import Tabular.Change.Anonymization

namespace Tabular

open List

/-!
# What anonymized tables disclose

For each way of hiding a cell, what two cells have to share so that nobody can tell them apart once
they are hidden. Tables that agree that far, row by row, become the same table. So a hidden table
discloses of each cell no more than what its relation asks for.
-/

/-! ## Texts that are masked alike -/

namespace Mask

/-- The digits of a text. -/
def digits (text : List Char) : List Char :=
  text.filter Text.isDecimalDigit

/--
Both texts have at most two characters, or they share the first and the last one and the length, up
to seven.
-/
def SameEnds (left right : List Char) : Prop :=
  left.length ≤ 2 ∧ right.length ≤ 2 ∨
    2 < left.length ∧ 2 < right.length ∧
      left.head? = right.head? ∧ left.getLast? = right.getLast? ∧
        min left.length 7 = min right.length 7

/--
Two addresses with one domain whose local parts share the first character if they are longer than
one, and any texts without exactly one `@` that share their ends.
-/
inductive SameAddress : List Char → List Char → Prop where
  | address
      {leftPart rightPart domain : List Char}
      (leftLocal : '@' ∉ leftPart)
      (rightLocal : '@' ∉ rightPart)
      (oneSign : '@' ∉ domain)
      (sameLonger : 1 < leftPart.length ↔ 1 < rightPart.length)
      (sameFirst : 1 < leftPart.length → leftPart.head? = rightPart.head?) :
      SameAddress (leftPart ++ '@' :: domain) (rightPart ++ '@' :: domain)
  | other
      {left right : List Char}
      (leftOther : left.count '@' ≠ 1)
      (rightOther : right.count '@' ≠ 1)
      (sameEnds : SameEnds left right) :
      SameAddress left right

/-- Both texts are shorter than a length, or they end with the same characters of that length. -/
def SameLast (length : Nat) (left right : List Char) : Prop :=
  left.length < length ∧ right.length < length ∨
    ∃ last, last.length = length ∧ last <:+ left ∧ last <:+ right

/-- Both texts are shorter than a length, or they start with the same characters of that length. -/
def SameFirst (length : Nat) (left right : List Char) : Prop :=
  left.length < length ∧ right.length < length ∨
    ∃ first, first.length = length ∧ first <+: left ∧ first <+: right

/-- What masking as the kind asks for may disclose of two texts is the same. -/
def SameShown (kind : SmartKind) (left right : List Char) : Prop :=
  match kind with
  | .email => SameAddress left right
  | .phone => SameLast 4 (digits left) (digits right)
  | .zipcode => SameFirst 2 (digits left) (digits right)
  | _ => SameEnds left right

end Mask

/-! ## Cells, rows and tables that are hidden alike -/

/-- What a method may disclose of two display texts is the same. -/
def AnonymizationMethod.SameShown
    (method : AnonymizationMethod)
    (kind : SmartKind)
    (left right : String) :
    Prop :=
  match method with
  | .mask => Mask.SameShown kind left.toList right.toList
  | .redact => True
  | .hash => left = right
  | .remove => True

/-- The cell is nothing, not a number or the empty text, and so is left as it is. -/
def Cell.IsBlankValue (cell : Cell) : Prop :=
  cell.isMissing = true ∨ cell = .text ""

instance (cell : Cell) : Decidable cell.IsBlankValue :=
  inferInstanceAs (Decidable (_ ∨ _))

/-- Two cells that nobody can tell apart once they are hidden by a method. -/
inductive Cell.HiddenAlike (method : AnonymizationMethod) (kind : SmartKind) :
    Cell → Cell → Prop where
  | blank
      {cell : Cell}
      (isBlank : cell.IsBlankValue) :
      HiddenAlike method kind cell cell
  | filled
      {left right : Cell}
      (leftFilled : ¬ left.IsBlankValue)
      (rightFilled : ¬ right.IsBlankValue)
      (sameShown : method.SameShown kind left.display right.display) :
      HiddenAlike method kind left right

namespace Anonymization

/-- The kind of a column, if one is given for it. -/
def kindOf (kinds : Assoc SmartTypeInfo) (column : String) : SmartKind :=
  ((kinds.find? column).map SmartTypeInfo.kind).getD .none

/--
Two rows that nobody can tell apart once they are hidden: in each column the cells are equal when no
method is named for it, are hidden alike when one is, and are any cells when the column is left out.
-/
def RowsAlike
    (methods : Assoc AnonymizationMethod)
    (kinds : Assoc SmartTypeInfo)
    (columns : List String)
    (left right : Row) :
    Prop :=
  ∀ column ∈ columns,
    match methods.find? column with
    | none => left.cell column = right.cell column
    | some .remove => True
    | some method =>
        Cell.HiddenAlike method (kindOf kinds column) (left.cell column) (right.cell column)

/-- Two tables of the same name and columns whose rows are hidden alike in turn. -/
structure TablesAlike
    (methods : Assoc AnonymizationMethod)
    (kinds : Assoc SmartTypeInfo)
    (left right : Table) :
    Prop where
  name_eq : left.name = right.name
  columns_eq : left.columns = right.columns
  rows_alike : Forall₂ (RowsAlike methods kinds left.columns) left.rows right.rows

end Anonymization

/-! ## Masks -/

namespace Text

variable {separator : Char}

theorem piecesAt_of_not_mem
    {text : List Char}
    (absent : separator ∉ text) :
    piecesAt separator text = [text] := by
  induction text with
  | nil =>
      rfl
  | cons character rest inductionHypothesis =>
      rw [mem_cons, not_or] at absent
      rw [piecesAt, if_neg (Ne.symm absent.1), inductionHypothesis absent.2]

theorem piecesAt_append_cons
    {front : List Char}
    (absent : separator ∉ front)
    (rest : List Char) :
    piecesAt separator (front ++ separator :: rest) = front :: piecesAt separator rest := by
  induction front with
  | nil =>
      rw [nil_append, piecesAt, if_pos rfl]
  | cons character front inductionHypothesis =>
      rw [mem_cons, not_or] at absent
      rw [cons_append, piecesAt, if_neg (Ne.symm absent.1), inductionHypothesis absent.2]

/-- A text has one piece more than it has separators. -/
theorem length_piecesAt
    (text : List Char) :
    (piecesAt separator text).length = text.count separator + 1 := by
  induction text with
  | nil =>
      rfl
  | cons character rest inductionHypothesis =>
      by_cases same : character = separator
      · rw [piecesAt, if_pos same, length_cons, inductionHypothesis, same, count_cons_self]
      · rw [piecesAt, if_neg same, count_cons_of_ne same, ← inductionHypothesis]
        cases pieces : piecesAt separator rest with
        | nil =>
            rw [pieces] at inductionHypothesis
            simp at inductionHypothesis
        | cons piece pieces =>
            rfl

end Text

namespace Mask

variable {left right : List Char}

theorem drop_length_sub_one
    (text : List Char) :
    text.drop (text.length - 1) = text.getLast?.toList := by
  rcases eq_nil_or_concat text with rfl | ⟨front, last, rfl⟩
  · rfl
  · simp

/-- A text is masked by its ends and its length, up to seven. -/
theorem generic_eq
    (text : List Char) :
    generic text =
      if text.length ≤ 2 then stars
      else
        text.head?.toList ++ replicate (min text.length 7 - 2) '*' ++ text.getLast?.toList := by
  match text with
  | [] =>
      rfl
  | [first] =>
      rfl
  | [first, second] =>
      rfl
  | first :: second :: third :: rest =>
      have stars : min (rest.length + 3 - 2) 5 = min (rest.length + 3) 7 - 2 := by omega
      rw [if_neg (by simp), ← drop_length_sub_one, generic]
      simp only [length_cons, stars]
      rfl

theorem generic_congr
    (sameEnds : SameEnds left right) :
    generic left = generic right := by
  rw [generic_eq, generic_eq]
  rcases sameEnds with ⟨leftShort, rightShort⟩ | ⟨leftLong, rightLong, sameHead, sameLast, capped⟩
  · rw [if_pos leftShort, if_pos rightShort]
  · rw [if_neg (Nat.not_le_of_lt leftLong), if_neg (Nat.not_le_of_lt rightLong), sameHead,
      sameLast, capped]

theorem email_address
    {localPart domain : List Char}
    (isLocal : '@' ∉ localPart)
    (oneSign : '@' ∉ domain) :
    email (localPart ++ '@' :: domain) =
      (if 1 < localPart.length then localPart.head?.toList ++ stars else stars) ++
        '@' :: domain := by
  rw [email, Text.piecesAt_append_cons isLocal, Text.piecesAt_of_not_mem oneSign]
  dsimp only
  rw [take_one]

theorem email_other
    {text : List Char}
    (isOther : text.count '@' ≠ 1) :
    email text = generic text := by
  have pieces := @Text.length_piecesAt '@' text
  rw [email]
  split
  · next found =>
      rw [found] at pieces
      exact absurd (Nat.succ.inj pieces).symm isOther
  · rfl

theorem email_congr
    (sameAddress : SameAddress left right) :
    email left = email right := by
  cases sameAddress with
  | @address leftPart rightPart domain leftLocal rightLocal oneSign sameLonger sameFirst =>
      rw [email_address leftLocal oneSign, email_address rightLocal oneSign]
      by_cases longer : 1 < leftPart.length
      · rw [if_pos longer, if_pos (sameLonger.mp longer), sameFirst longer]
      · rw [if_neg longer, if_neg (mt sameLonger.mpr longer)]
  | other leftOther rightOther sameEnds =>
      rw [email_other leftOther, email_other rightOther, generic_congr sameEnds]

theorem phone_eq
    (text : List Char) :
    phone text =
      if 4 ≤ (digits text).length then
        "***-***-".toList ++ (digits text).drop ((digits text).length - 4)
      else "***-***-****".toList :=
  rfl

theorem phone_congr
    (sameLast : SameLast 4 (digits left) (digits right)) :
    phone left = phone right := by
  rw [phone_eq, phone_eq]
  rcases sameLast with ⟨leftShort, rightShort⟩ | ⟨last, isFour, inLeft, inRight⟩
  · rw [if_neg (Nat.not_le_of_lt leftShort), if_neg (Nat.not_le_of_lt rightShort)]
  · rw [if_pos (isFour ▸ inLeft.length_le), if_pos (isFour ▸ inRight.length_le), ← isFour,
      ← suffix_iff_eq_drop.mp inLeft, ← suffix_iff_eq_drop.mp inRight]

theorem zipcode_eq
    (text : List Char) :
    zipcode text =
      if 2 ≤ (digits text).length then (digits text).take 2 ++ stars else "*****".toList :=
  rfl

theorem zipcode_congr
    (sameFirst : SameFirst 2 (digits left) (digits right)) :
    zipcode left = zipcode right := by
  rw [zipcode_eq, zipcode_eq]
  rcases sameFirst with ⟨leftShort, rightShort⟩ | ⟨first, isTwo, inLeft, inRight⟩
  · rw [if_neg (Nat.not_le_of_lt leftShort), if_neg (Nat.not_le_of_lt rightShort)]
  · rw [if_pos (isTwo ▸ inLeft.length_le), if_pos (isTwo ▸ inRight.length_le), ← isTwo,
      ← prefix_iff_eq_take.mp inLeft, ← prefix_iff_eq_take.mp inRight]

/-- Texts that show the same when they are masked have the same mask. -/
theorem value_congr
    {kind : SmartKind}
    {left right : String}
    (sameShown : SameShown kind left.toList right.toList) :
    value kind left = value kind right := by
  apply congrArg String.ofList
  cases kind with
  | email => exact email_congr sameShown
  | phone => exact phone_congr sameShown
  | zipcode => exact zipcode_congr sameShown
  | url | currency | date | percentage | none | other => exact generic_congr sameShown

end Mask

/-! ## Hidden tables -/

/-- Cells that are hidden alike become the same cell. -/
theorem Cell.HiddenAlike.anonymize_eq
    {settings : Settings}
    {method : AnonymizationMethod}
    {kind : SmartKind}
    {left right : Cell}
    (alike : HiddenAlike method kind left right) :
    left.anonymize settings method kind = right.anonymize settings method kind := by
  cases alike with
  | blank isBlank =>
      rfl
  | filled leftFilled rightFilled sameShown =>
      unfold Cell.anonymize
      rw [if_neg (by simpa [IsBlankValue] using leftFilled),
        if_neg (by simpa [IsBlankValue] using rightFilled)]
      cases method with
      | mask => exact congrArg Cell.text (Mask.value_congr sameShown)
      | redact => rfl
      | hash => exact congrArg (fun shown => Cell.text (Token.ofText shown)) sameShown
      | remove => rfl

namespace Anonymization

variable
    {settings : Settings}
    {methods : Assoc AnonymizationMethod}
    {kinds : Assoc SmartTypeInfo}
    {columns : List String}

/-- Rows that are hidden alike become the same row. -/
theorem RowsAlike.hideRow_eq
    {left right : Row}
    (alike : RowsAlike methods kinds columns left right) :
    hideRow settings methods kinds (keptColumns methods columns) left =
      hideRow settings methods kinds (keptColumns methods columns) right := by
  rw [hideRow, hideRow]
  congr 1
  apply map_congr_left
  intro column isKept
  obtain ⟨isColumn, notRemoved⟩ := mem_filter.mp isKept
  have sameColumn := alike column isColumn
  rw [Prod.mk.injEq]
  refine ⟨rfl, ?_⟩
  rw [hiddenCell, hiddenCell]
  cases named : methods.find? column with
  | none =>
      rw [named] at sameColumn
      exact sameColumn
  | some method =>
      rw [named] at sameColumn notRemoved
      cases method with
      | remove => exact absurd notRemoved (by simp)
      | mask => exact sameColumn.anonymize_eq
      | redact => exact sameColumn.anonymize_eq
      | hash => exact sameColumn.anonymize_eq

theorem map_hideRow_eq
    (settings : Settings)
    {left right : List Row}
    (alike : Forall₂ (RowsAlike methods kinds columns) left right) :
    left.map (hideRow settings methods kinds (keptColumns methods columns)) =
      right.map (hideRow settings methods kinds (keptColumns methods columns)) := by
  induction alike with
  | nil =>
      rfl
  | cons alike _ inductionHypothesis =>
      rw [map_cons, map_cons, alike.hideRow_eq, inductionHypothesis]

/-- Tables that are hidden alike become the same table. -/
theorem TablesAlike.anonymizeTable_eq
    {left right : Table}
    (alike : TablesAlike methods kinds left right) :
    anonymizeTable settings methods kinds left = anonymizeTable settings methods kinds right := by
  have sameRows := map_hideRow_eq settings alike.rows_alike
  unfold anonymizeTable
  dsimp only
  rw [← alike.name_eq, ← alike.columns_eq, sameRows]

end Anonymization

/--
Whatever methods are named for columns and whatever kinds the columns have: two tables that are
hidden alike end in the same hidden table, or in the same fault when a method is unknown.
-/
theorem anonymized_eq_of_tablesAlike
    (settings : Settings)
    (named : Assoc Cell)
    (kinds : Assoc SmartTypeInfo)
    (left right : Table)
    (alike :
      ∀ methods, checkMethods named = .ok methods →
        Anonymization.TablesAlike methods kinds left right) :
    (checkMethods named).map (fun methods => anonymizeTable settings methods kinds left) =
      (checkMethods named).map fun methods => anonymizeTable settings methods kinds right := by
  cases checked : checkMethods named with
  | error fault =>
      rfl
  | ok methods =>
      exact congrArg Except.ok (alike methods checked).anonymizeTable_eq

namespace Anonymization.Sample

/-- Addresses and names are masked, and codes are left out. -/
def named : Assoc Cell :=
  .ofList [("mail", .text "mask"), ("guest", .text "mask"), ("code", .text "remove")]

/-- Only the addresses are known to be such. -/
def kinds : Assoc SmartTypeInfo :=
  .ofList [("mail", { kind := .email })]

/-- A table of guests. -/
def guests (rows : List Row) : Table :=
  .ofColumns (some "guests") ["mail", "guest", "code", "city"] rows

def left : Table :=
  guests
    [.ofList [("mail", .text "ann@post.org"), ("guest", .text "Annabel"), ("code", .int 7),
        ("city", .text "Ulm")],
      .ofList [("mail", .null), ("guest", .int 21), ("city", .text "Ulm"), ("note", .text "late")]]

/-- Other guests from the same city, with addresses of the same domain. -/
def right : Table :=
  guests
    [.ofList [("mail", .text "abe.b@post.org"), ("guest", .text "Al Schell"), ("code", .text "x"),
        ("city", .text "Ulm")],
      .ofList [("guest", .text "Jo"), ("code", .bool true), ("city", .text "Ulm")]]

/-- The methods that are named. -/
def methods : Assoc AnonymizationMethod :=
  .ofList [("mail", .mask), ("guest", .mask), ("code", .remove)]

theorem checkMethods_named :
    checkMethods named = .ok methods := by
  decide +kernel

theorem rowsAlike_of_cells
    {left right : Row}
    (sameMail : Cell.HiddenAlike .mask .email (left.cell "mail") (right.cell "mail"))
    (sameGuest : Cell.HiddenAlike .mask .none (left.cell "guest") (right.cell "guest"))
    (sameCity : left.cell "city" = right.cell "city") :
    RowsAlike methods kinds ["mail", "guest", "code", "city"] left right := by
  have mail : methods.find? "mail" = some .mask := by decide +kernel
  have guest : methods.find? "guest" = some .mask := by decide +kernel
  have code : methods.find? "code" = some .remove := by decide +kernel
  have city : methods.find? "city" = none := by decide +kernel
  have mailKind : kindOf kinds "mail" = .email := by decide +kernel
  have guestKind : kindOf kinds "guest" = .none := by decide +kernel
  intro column isColumn
  obtain rfl | rfl | rfl | rfl :
      column = "mail" ∨ column = "guest" ∨ column = "code" ∨ column = "city" := by
    simpa using isColumn
  · rw [mail, mailKind]
    exact sameMail
  · rw [guest, guestKind]
    exact sameGuest
  · rw [code]
    trivial
  · rw [city]
    exact sameCity

/-- The tables of the sample differ and nobody can tell them apart once they are hidden. -/
theorem anonymized_eq_of_guests :
    left ≠ right ∧
      (∀ methods, checkMethods named = .ok methods → TablesAlike methods kinds left right) ∧
      (checkMethods named).map (fun methods => anonymizeTable {} methods kinds left) =
        (checkMethods named).map fun methods => anonymizeTable {} methods kinds right := by
  have differ : left ≠ right := by
    intro same
    exact absurd (congrArg (fun table => table.rows.map fun row => row.cell "guest") same)
      (by decide +kernel)
  have alike (found : Assoc AnonymizationMethod) (checked : checkMethods named = .ok found) :
      TablesAlike found kinds left right := by
    rw [checkMethods_named, Except.ok.injEq] at checked
    subst checked
    have sameAddress :
        Mask.SameAddress ("ann".toList ++ '@' :: "post.org".toList)
          ("abe.b".toList ++ '@' :: "post.org".toList) :=
      .address (by decide) (by decide) (by decide) (by decide) (by decide)
    have sameEnds : Mask.SameEnds "Annabel".toList "Al Schell".toList := .inr (by decide)
    have bothShort : Mask.SameEnds "21".toList "Jo".toList := .inl (by decide)
    refine ⟨rfl, rfl, .cons ?_ (.cons ?_ .nil)⟩
    · exact rowsAlike_of_cells (.filled (by decide) (by decide) sameAddress)
        (.filled (by decide) (by decide) sameEnds) rfl
    · exact rowsAlike_of_cells (.blank (by decide)) (.filled (by decide) (by decide) bothShort) rfl
  exact ⟨differ, alike, anonymized_eq_of_tablesAlike {} named kinds left right alike⟩

end Anonymization.Sample

end Tabular
