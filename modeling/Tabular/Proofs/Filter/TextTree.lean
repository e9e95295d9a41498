import Tabular.Proofs.Filter.Text

namespace Tabular

/-!
# Filter trees with texts of any kind

The texts in a filter tree are sequences of characters. Among code points there are surrogates too,
and two of these side by side are written like the character that a pair of them stands for. So
trees are looked at here with any code points for their texts. What is written for such trees tells
them as far as the units of these code points go, and no further.

The argument needs of the texts only what is told by the way they are written: a text up to its
closing quote tells an image of itself, and then so does a tree.
-/

/-! ## Trees with texts of any kind -/

/-- A value that holds no text. -/
inductive Scalar where
  | null
  | bool (value : Bool)
  | int (value : Int)
  | float (value : Binary64)
deriving DecidableEq

/-- A part of a node: a text of some kind, or a value that holds none. -/
inductive TextPart (τ : Type) where
  | text (value : τ)
  | scalar (value : Scalar)
deriving DecidableEq

/-- A filter tree with texts of some kind, the names of its logics among them. -/
inductive TextTree (τ : Type) where
  | condition (id : τ) (field operator value : TextPart τ)
  | group (id logic : τ) (children : List (TextTree τ))

variable {τ σ : Type}

/-- A value without text as a document. -/
def Scalar.toJson : Scalar → Json
  | null => .null
  | bool value => .bool value
  | int value => .int value
  | float value => .float value

/-- The text of an object whose values are written already. -/
def Json.objectText (members : List (String × List Char)) : List Char :=
  '{' ::
      Json.commaSeparated
        (members.map fun member => Json.quoted member.1 ++ ':' :: ' ' :: member.2) ++
    ['}']

namespace TextPart

/-- A part with another text. -/
def map (image : τ → σ) : TextPart τ → TextPart σ
  | text value => .text (image value)
  | scalar value => .scalar value

/-- The texts in a part. -/
def texts : TextPart τ → List τ
  | text value => [value]
  | scalar _ => []

/-- A text in quotes, as `escape` writes it. -/
def quotedWith (escape : τ → List Char) (value : τ) : List Char :=
  '"' :: escape value ++ ['"']

/-- What is written for a part, with its text as `escape` writes it. -/
def characters (escape : τ → List Char) : TextPart τ → List Char
  | text value => quotedWith escape value
  | scalar value => value.toJson.characters

/-- An optional text as a part. -/
def ofOption : Option τ → TextPart τ
  | some value => .text value
  | none => .scalar .null

end TextPart

namespace TextTree

mutual

/-- A tree with other texts. -/
def map (image : τ → σ) : TextTree τ → TextTree σ
  | condition id field operator value =>
      .condition (image id) (field.map image) (operator.map image) (value.map image)
  | group id logic children => .group (image id) (image logic) (mapAll image children)

/-- Trees with other texts. -/
def mapAll (image : τ → σ) : List (TextTree τ) → List (TextTree σ)
  | [] => []
  | child :: rest => map image child :: mapAll image rest

end

mutual

/-- The texts in a tree. -/
def texts : TextTree τ → List τ
  | condition id field operator value => id :: (field.texts ++ operator.texts ++ value.texts)
  | group id logic children => id :: logic :: textsAmong children

/-- The texts in trees. -/
def textsAmong : List (TextTree τ) → List τ
  | [] => []
  | child :: rest => texts child ++ textsAmong rest

end

mutual

/-- What is written for a tree, its members in the order of their keys. -/
def characters (escape : τ → List Char) : TextTree τ → List Char
  | condition id field operator value =>
      Json.objectText
        [("field", field.characters escape), ("id", TextPart.quotedWith escape id),
          ("operator", operator.characters escape), ("type", Json.quoted "condition"),
          ("value", value.characters escape)]
  | group id logic children =>
      Json.objectText
        [("children", '[' :: Json.commaSeparated (allCharacters escape children) ++ [']']),
          ("id", TextPart.quotedWith escape id), ("logic", TextPart.quotedWith escape logic),
          ("type", Json.quoted "group")]

/-- What is written for each of some trees. -/
def allCharacters (escape : τ → List Char) : List (TextTree τ) → List (List Char)
  | [] => []
  | child :: rest => characters escape child :: allCharacters escape rest

end

/-- How the code points of a text are written. -/
def escapedPoints (points : List Text.Point) : List Char :=
  (points.map Fin.val).flatMap Json.escapedPoint

/-- The text of a tree whose texts are code points. -/
def written (tree : TextTree (List Text.Point)) : String :=
  String.ofList (tree.characters escapedPoints)

/-- In no text of the tree two surrogates side by side form a pair. -/
def HasNoPairs (tree : TextTree (List Text.Point)) : Prop :=
  ∀ points ∈ tree.texts, Text.HasNoPairs (points.map Fin.val)

instance : DecidablePred HasNoPairs :=
  fun tree =>
    inferInstanceAs (Decidable (∀ points ∈ tree.texts, Text.HasNoPairs (points.map Fin.val)))

end TextTree

/-! ## Pieces of arrays and objects -/

namespace Json

variable {rest otherRest : List Char}

/-- The pieces after the first one, with what separates them from it. -/
def laterPieces : List (List Char) → List Char
  | [] => []
  | piece :: pieces => ',' :: ' ' :: commaSeparated (piece :: pieces)

theorem commaSeparated_cons
    (piece : List Char)
    (pieces : List (List Char)) :
    commaSeparated (piece :: pieces) = piece ++ laterPieces pieces := by
  cases pieces with
  | nil =>
      exact (List.append_nil piece).symm
  | cons next later =>
      rfl

/-- Where the same follows a first piece, the same would stand without it. -/
theorem commaSeparated_eq_of_laterPieces_eq
    {pieces others : List (List Char)}
    (same :
      laterPieces pieces ++ ']' :: rest = laterPieces others ++ ']' :: otherRest) :
    commaSeparated pieces ++ ']' :: rest =
      commaSeparated others ++ ']' :: otherRest := by
  cases pieces with
  | nil =>
      cases others with
      | nil =>
          exact same
      | cons other otherLater =>
          simp [laterPieces] at same
  | cons piece later =>
      cases others with
      | nil =>
          simp [laterPieces] at same
      | cons other otherLater =>
          simpa only [laterPieces, List.cons_append, List.cons.injEq, true_and] using same

/-- An object ends by a brace, after its members in turn. -/
theorem objectText_append
    (members : List (String × List Char))
    (rest : List Char) :
    objectText members ++ rest =
      '{' ::
        (commaSeparated
            (members.map fun member => quoted member.1 ++ ':' :: ' ' :: member.2) ++
          '}' :: rest) := by
  simp [objectText]

/-- Objects that go on alike with a member of one key go on alike after the key. -/
theorem eq_of_member_eq
    {key : String}
    (same :
      ',' :: ' ' :: (quoted key ++ ':' :: ' ' :: rest) =
        ',' :: ' ' :: (quoted key ++ ':' :: ' ' :: otherRest)) :
    rest = otherRest := by
  simpa only [List.cons.injEq, true_and, List.append_cancel_left_eq] using same

end Json

/-! ## What is written tells the parts -/

theorem Scalar.toJson_injective
    {value other : Scalar}
    (same : value.toJson = other.toJson) :
    value = other := by
  cases value <;> cases other <;>
    simp_all [toJson]

theorem Scalar.sorted_toJson
    (value : Scalar) :
    value.toJson.sorted = value.toJson := by
  cases value <;>
    rfl

/-- Where a quote stands, no value without text is written. -/
theorem Scalar.characters_append_ne_quote
    (value : Scalar)
    {rest : List Char}
    (delimited : Json.Delimited rest)
    (tail : List Char) :
    value.toJson.characters ++ rest ≠ '"' :: tail := by
  intro starts
  obtain ⟨text, isText⟩ := Json.exists_text_of_characters_eq delimited starts
  rw [sorted_toJson] at isText
  cases value <;>
    cases isText

section Parts

variable {escape : τ → List Char} {image : τ → σ} {rest otherRest : List Char}

namespace TextPart

/-- Texts up to a closing quote tell their images by how they are written, and what follows. -/
def Tells (escape : τ → List Char) (image : τ → σ) : Prop :=
  ∀ value other rest otherRest,
    escape value ++ '"' :: rest = escape other ++ '"' :: otherRest →
      image value = image other ∧ rest = otherRest

theorem quotedWith_append
    (escape : τ → List Char)
    (value : τ)
    (rest : List Char) :
    quotedWith escape value ++ rest = '"' :: (escape value ++ '"' :: rest) := by
  simp [quotedWith]

theorem quotedWith_append_inj
    (tells : Tells escape image)
    {value other : τ}
    (same : quotedWith escape value ++ rest = quotedWith escape other ++ otherRest) :
    image value = image other ∧ rest = otherRest := by
  rw [quotedWith_append, quotedWith_append, List.cons.injEq] at same
  exact tells value other rest otherRest same.2

/-- Parts up to a delimiter tell their images by how they are written, and what follows. -/
theorem characters_append_inj
    (tells : Tells escape image)
    {part other : TextPart τ}
    (delimited : Json.Delimited rest)
    (otherDelimited : Json.Delimited otherRest)
    (same : part.characters escape ++ rest = other.characters escape ++ otherRest) :
    part.map image = other.map image ∧ rest = otherRest := by
  cases part with
  | text value =>
      cases other with
      | text otherValue =>
          obtain ⟨sameImage, sameRest⟩ := quotedWith_append_inj tells same
          exact ⟨congrArg text sameImage, sameRest⟩
      | scalar otherValue =>
          rw [characters, quotedWith_append] at same
          exact absurd same.symm (otherValue.characters_append_ne_quote otherDelimited _)
  | scalar value =>
      cases other with
      | text otherValue =>
          rw [characters, characters, quotedWith_append] at same
          exact absurd same (value.characters_append_ne_quote delimited _)
      | scalar otherValue =>
          obtain ⟨sameSorted, sameRest⟩ :=
            Json.characters_append_inj delimited otherDelimited same
          rw [Scalar.sorted_toJson, Scalar.sorted_toJson] at sameSorted
          exact ⟨congrArg scalar (Scalar.toJson_injective sameSorted), sameRest⟩

end TextPart

namespace TextTree

/-- Conditions and groups differ in the first of their keys. -/
theorem condition_append_ne_group
    (id otherId logic : τ)
    (field operator value : TextPart τ)
    (children : List (TextTree τ)) :
    (condition id field operator value).characters escape ++ rest ≠
      (group otherId logic children).characters escape ++ otherRest := by
  have otherKey (tail otherTail : List Char) :
      Json.quoted "field" ++ tail ≠ Json.quoted "children" ++ otherTail := by
    simp [Json.quoted, Json.escapedChar, Json.escapedPoint]
  simp only [characters, Json.objectText_append, List.map_cons, Json.commaSeparated,
    List.append_assoc, ne_eq, List.cons.injEq, true_and]
  exact otherKey _ _

mutual

/-- Trees tell their images by how they are written, and what follows. -/
theorem characters_append_inj
    (tells : TextPart.Tells escape image) :
    ∀ (tree other : TextTree τ) (rest otherRest : List Char),
      tree.characters escape ++ rest = other.characters escape ++ otherRest →
        tree.map image = other.map image ∧ rest = otherRest
  | .condition id field operator value,
      .condition otherId otherField otherOperator otherValue, rest, otherRest, same => by
      simp only [characters, Json.objectText_append, List.map_cons, List.map_nil,
        Json.commaSeparated, List.append_assoc, List.cons_append, List.cons.injEq, true_and,
        List.append_cancel_left_eq] at same
      obtain ⟨sameField, afterField⟩ :=
        TextPart.characters_append_inj tells (.comma _) (.comma _) same
      obtain ⟨sameId, afterId⟩ :=
        TextPart.quotedWith_append_inj tells (Json.eq_of_member_eq afterField)
      obtain ⟨sameOperator, afterOperator⟩ :=
        TextPart.characters_append_inj tells (.comma _) (.comma _)
          (Json.eq_of_member_eq afterId)
      have afterType := List.append_cancel_left (Json.eq_of_member_eq afterOperator)
      obtain ⟨sameValue, afterValue⟩ :=
        TextPart.characters_append_inj tells (.brace _) (.brace _)
          (Json.eq_of_member_eq afterType)
      rw [map, map, sameId, sameField, sameOperator, sameValue]
      exact ⟨rfl, (List.cons.inj afterValue).2⟩
  | .condition id field operator value, .group otherId logic children, rest, otherRest, same =>
      absurd same (condition_append_ne_group id otherId logic field operator value children)
  | .group id logic children, .condition otherId field operator value, rest, otherRest, same =>
      absurd same.symm
        (condition_append_ne_group otherId id logic field operator value children)
  | .group id logic children, .group otherId otherLogic others, rest, otherRest, same => by
      simp only [characters, Json.objectText_append, List.map_cons, List.map_nil,
        Json.commaSeparated, List.append_assoc, List.cons_append, List.nil_append,
        List.cons.injEq, true_and, List.append_cancel_left_eq] at same
      obtain ⟨sameChildren, afterChildren⟩ :=
        allCharacters_append_inj tells children others _ _ same
      obtain ⟨sameId, afterId⟩ :=
        TextPart.quotedWith_append_inj tells (Json.eq_of_member_eq afterChildren)
      obtain ⟨sameLogic, afterLogic⟩ :=
        TextPart.quotedWith_append_inj tells (Json.eq_of_member_eq afterId)
      have afterType := List.append_cancel_left (Json.eq_of_member_eq afterLogic)
      rw [map, map, sameId, sameLogic, sameChildren]
      exact ⟨rfl, (List.cons.inj afterType).2⟩

/-- Trees of a group tell their images by how they are written, and what follows. -/
theorem allCharacters_append_inj
    (tells : TextPart.Tells escape image) :
    ∀ (trees others : List (TextTree τ)) (rest otherRest : List Char),
      Json.commaSeparated (allCharacters escape trees) ++ ']' :: rest =
          Json.commaSeparated (allCharacters escape others) ++ ']' :: otherRest →
        mapAll image trees = mapAll image others ∧ rest = otherRest
  | [], [], rest, otherRest, same =>
      ⟨rfl, (List.cons.inj same).2⟩
  | [], other :: others, rest, otherRest, same => by
      rw [allCharacters, allCharacters, Json.commaSeparated_cons] at same
      cases other <;>
        simp [characters, Json.objectText_append, Json.commaSeparated] at same
  | tree :: trees, [], rest, otherRest, same => by
      rw [allCharacters, allCharacters, Json.commaSeparated_cons] at same
      cases tree <;>
        simp [characters, Json.objectText_append, Json.commaSeparated] at same
  | tree :: trees, other :: others, rest, otherRest, same => by
      rw [allCharacters, allCharacters, Json.commaSeparated_cons, Json.commaSeparated_cons,
        List.append_assoc, List.append_assoc] at same
      obtain ⟨sameFirst, sameLater⟩ := characters_append_inj tells tree other _ _ same
      obtain ⟨sameOthers, sameRest⟩ :=
        allCharacters_append_inj tells trees others rest otherRest
          (Json.commaSeparated_eq_of_laterPieces_eq sameLater)
      rw [mapAll, mapAll, sameFirst, sameOthers]
      exact ⟨rfl, sameRest⟩

end

end TextTree

/-! ## Other texts that are written alike -/

theorem TextPart.characters_map
    (escape : σ → List Char)
    (image : τ → σ)
    (part : TextPart τ) :
    (part.map image).characters escape = part.characters (escape ∘ image) := by
  cases part <;>
    rfl

theorem TextPart.texts_map
    (image : τ → σ)
    (part : TextPart τ) :
    (part.map image).texts = part.texts.map image := by
  cases part <;>
    rfl

/-- An image that tells the texts of two parts tells the parts. -/
theorem TextPart.eq_of_map_eq
    {part other : TextPart τ}
    (told : ∀ text ∈ part.texts, ∀ otherText ∈ other.texts,
      image text = image otherText → text = otherText)
    (same : part.map image = other.map image) :
    part = other := by
  cases part <;> cases other <;>
    simp_all [TextPart.map, TextPart.texts]

namespace TextTree

mutual

/-- A tree with other texts is written as the tree is, with these in place of its own. -/
theorem characters_map
    (escape : σ → List Char)
    (image : τ → σ) :
    ∀ tree : TextTree τ,
      (tree.map image).characters escape = tree.characters (escape ∘ image)
  | .condition id field operator value => by
      simp only [map, characters, TextPart.characters_map]
      rfl
  | .group id logic children => by
      simp only [map, characters, allCharacters_mapAll escape image children]
      rfl

theorem allCharacters_mapAll
    (escape : σ → List Char)
    (image : τ → σ) :
    ∀ trees : List (TextTree τ),
      allCharacters escape (mapAll image trees) = allCharacters (escape ∘ image) trees
  | [] => rfl
  | tree :: trees => by
      rw [mapAll, allCharacters, allCharacters, characters_map escape image tree,
        allCharacters_mapAll escape image trees]

end

mutual

/-- A tree with other texts has the images of the texts of the tree. -/
theorem texts_map
    (image : τ → σ) :
    ∀ tree : TextTree τ, (tree.map image).texts = tree.texts.map image
  | .condition id field operator value => by
      simp only [map, texts, TextPart.texts_map, List.map_cons, List.map_append]
  | .group id logic children => by
      simp only [map, texts, textsAmong_mapAll image children, List.map_cons]

theorem textsAmong_mapAll
    (image : τ → σ) :
    ∀ trees : List (TextTree τ),
      textsAmong (mapAll image trees) = (textsAmong trees).map image
  | [] => rfl
  | tree :: trees => by
      rw [mapAll, textsAmong, textsAmong, texts_map image tree, textsAmong_mapAll image trees,
        List.map_append]

end

mutual

/-- An image that tells the texts of two trees tells the trees. -/
theorem eq_of_map_eq :
    ∀ tree other : TextTree τ,
      (∀ text ∈ tree.texts, ∀ otherText ∈ other.texts,
        image text = image otherText → text = otherText) →
          tree.map image = other.map image → tree = other
  | .condition id field operator value,
      .condition otherId otherField otherOperator otherValue, told, same => by
      simp only [map, condition.injEq] at same
      obtain ⟨sameId, sameField, sameOperator, sameValue⟩ := same
      rw [condition.injEq]
      refine ⟨told id (by simp [texts]) otherId (by simp [texts]) sameId,
        TextPart.eq_of_map_eq (fun text member otherText otherMember => ?_) sameField,
        TextPart.eq_of_map_eq (fun text member otherText otherMember => ?_) sameOperator,
        TextPart.eq_of_map_eq (fun text member otherText otherMember => ?_) sameValue⟩
      all_goals exact told text (by simp [texts, member]) otherText (by simp [texts, otherMember])
  | .condition .., .group .., _, same => by
      simp [map] at same
  | .group .., .condition .., _, same => by
      simp [map] at same
  | .group id logic children, .group otherId otherLogic others, told, same => by
      simp only [map, group.injEq] at same
      obtain ⟨sameId, sameLogic, sameChildren⟩ := same
      rw [group.injEq]
      refine ⟨told id (by simp [texts]) otherId (by simp [texts]) sameId,
        told logic (by simp [texts]) otherLogic (by simp [texts]) sameLogic,
        eq_of_mapAll_eq children others (fun text member otherText otherMember => ?_)
          sameChildren⟩
      exact told text (by simp [texts, member]) otherText (by simp [texts, otherMember])

theorem eq_of_mapAll_eq :
    ∀ trees others : List (TextTree τ),
      (∀ text ∈ textsAmong trees, ∀ otherText ∈ textsAmong others,
        image text = image otherText → text = otherText) →
          mapAll image trees = mapAll image others → trees = others
  | [], [], _, _ => rfl
  | [], _ :: _, _, same => by
      simp [mapAll] at same
  | _ :: _, [], _, same => by
      simp [mapAll] at same
  | tree :: trees, other :: others, told, same => by
      simp only [mapAll, List.cons.injEq] at same
      rw [eq_of_map_eq tree other
          (fun text member otherText otherMember =>
            told text (by simp [textsAmong, member]) otherText (by simp [textsAmong, otherMember]))
          same.1,
        eq_of_mapAll_eq trees others
          (fun text member otherText otherMember =>
            told text (by simp [textsAmong, member]) otherText (by simp [textsAmong, otherMember]))
          same.2]

end

/-! ## Trees whose texts are code points -/

/-- The code points of a text are told as far as their units go. -/
theorem tells_unitsOf :
    TextPart.Tells escapedPoints Text.unitsOf :=
  fun points others _ _ same =>
    Json.units_eq_of_written_eq (Text.map_val_lt points) (Text.map_val_lt others) same

/-- The code points of a text are written as their units are. -/
theorem escapedPoints_eq :
    escapedPoints = List.flatMap Json.escapedPoint ∘ Text.unitsOf :=
  funext fun points => Json.flatMap_escapedPoint_eq_units (Text.map_val_lt points)

/-- Trees are written alike exactly when the code points of their texts have the same units. -/
theorem written_inj
    {tree other : TextTree (List Text.Point)} :
    tree.written = other.written ↔ tree.map Text.unitsOf = other.map Text.unitsOf := by
  rw [written, written, String.ofList_inj]
  constructor
  · intro same
    have samePadded := congrArg (fun characters => characters ++ []) same
    exact (characters_append_inj tells_unitsOf tree other [] [] samePadded).1
  · intro same
    rw [escapedPoints_eq, ← characters_map, ← characters_map, same]

/-- Trees without pairs of surrogates are told by their texts. -/
theorem written_inj_of_hasNoPairs
    {tree other : TextTree (List Text.Point)}
    (hasNoPairs : tree.HasNoPairs)
    (otherHasNoPairs : other.HasNoPairs) :
    tree.written = other.written ↔ tree = other := by
  rw [written_inj]
  refine ⟨eq_of_map_eq tree other fun points member others otherMember => ?_, congrArg _⟩
  exact Text.eq_of_unitsOf_eq (hasNoPairs points member) (otherHasNoPairs others otherMember)

end TextTree

end Parts

/-! ## Filter trees of characters -/

/-- A cell as a part; dates and moments become their texts. -/
def Cell.textPart : Cell → TextPart String
  | .null => .scalar .null
  | .bool value => .scalar (.bool value)
  | .int value => .scalar (.int value)
  | .float value => .scalar (.float value)
  | .text value => .text value
  | cell => .text cell.literal

namespace FilterNode

mutual

/-- A filter tree as one whose texts are of any kind. -/
def textTree : FilterNode → TextTree String
  | .condition leaf =>
      .condition leaf.id (.ofOption leaf.field) (.ofOption leaf.operator) leaf.value.textPart
  | .group id logic children => .group id logic.name (textTrees children)

/-- Filter trees as those whose texts are of any kind. -/
def textTrees : List FilterNode → List (TextTree String)
  | [] => []
  | child :: rest => textTree child :: textTrees rest

end

end FilterNode

/-- How the characters of a text are written. -/
def Text.escaped (text : String) : List Char :=
  text.toList.flatMap Json.escapedChar

/-- The code points of a text are written as its characters are. -/
theorem TextTree.escapedPoints_comp_pointsOf :
    escapedPoints ∘ Text.pointsOf = Text.escaped := by
  funext text
  rw [Function.comp_apply, escapedPoints, Text.map_val_pointsOf, List.flatMap_map]
  rfl

/-- The members of a condition in the order of their keys. -/
theorem Json.sortMembers_condition
    (id type field operator value : Json) :
    Json.sortMembers
        [("id", id), ("type", type), ("field", field), ("operator", operator),
          ("value", value)] =
      [("field", field), ("id", id), ("operator", operator), ("type", type),
        ("value", value)] := by
  simp only [sortMembers, List.mergeSort, List.length_cons, List.length_nil, Nat.reduceAdd,
    Nat.reduceDiv, List.MergeSort.Internal.splitInTwo_fst, List.take_succ_cons, List.take_zero,
    List.mergeSort_singleton, List.MergeSort.Internal.splitInTwo_snd, List.drop_succ_cons,
    List.drop_zero, String.reduceLT, decide_false, Bool.not_false, List.cons_merge_cons_pos,
    List.nil_merge, decide_true, Bool.not_true, Bool.false_eq_true, not_false_eq_true,
    List.cons_merge_cons_neg, List.merge_right]

/-- The members of a group in the order of their keys. -/
theorem Json.sortMembers_group
    (id type logic children : Json) :
    Json.sortMembers
        [("id", id), ("type", type), ("logic", logic), ("children", children)] =
      [("children", children), ("id", id), ("logic", logic), ("type", type)] := by
  simp only [sortMembers, List.mergeSort, List.length_cons, List.length_nil, Nat.reduceAdd,
    Nat.reduceDiv, List.MergeSort.Internal.splitInTwo_fst, List.take_succ_cons, List.take_zero,
    List.mergeSort_singleton, List.MergeSort.Internal.splitInTwo_snd, List.drop_succ_cons,
    List.drop_zero, String.reduceLT, decide_false, Bool.not_false, List.cons_merge_cons_pos,
    List.nil_merge, decide_true, Bool.not_true, Bool.false_eq_true, not_false_eq_true,
    List.cons_merge_cons_neg, List.merge_right]

theorem Cell.characters_textPart
    (cell : Cell) :
    cell.textPart.characters Text.escaped = cell.toJson.characters := by
  cases cell <;>
    rfl

theorem TextPart.characters_ofOption
    (text : Option String) :
    (ofOption text).characters Text.escaped = (Json.ofOption .text text).characters := by
  cases text <;>
    rfl

namespace FilterNode

mutual

/-- A filter tree is written as its document is. -/
theorem characters_textTree :
    ∀ node : FilterNode,
      node.textTree.characters Text.escaped = node.toJson.characters
  | .condition leaf => by
      rw [toJson, toJsonWith_condition, Json.characters_object, Json.sortMembers_condition,
        textTree, TextTree.characters, TextPart.characters_ofOption,
        TextPart.characters_ofOption, Cell.characters_textPart]
      rfl
  | .group id logic children => by
      rw [toJson, toJsonWith_group, Json.characters_object, Json.sortMembers_group, textTree,
        TextTree.characters, allCharacters_textTrees children, ← Json.characters_array]
      rfl

theorem allCharacters_textTrees :
    ∀ nodes : List FilterNode,
      TextTree.allCharacters Text.escaped (textTrees nodes) =
        (nodes.map toJson).map Json.characters
  | [] => rfl
  | node :: rest => by
      rw [textTrees, TextTree.allCharacters, characters_textTree node,
        allCharacters_textTrees rest]
      rfl

end

/-- The text of a filter tree is that of the tree of its code points. -/
theorem written_toJson_eq
    (node : FilterNode) :
    node.toJson.written = (node.textTree.map Text.pointsOf).written := by
  rw [Json.written, TextTree.written, TextTree.characters_map,
    TextTree.escapedPoints_comp_pointsOf, characters_textTree]

/-- No two code points of a filter tree form a pair of surrogates. -/
theorem hasNoPairs_textTree
    (node : FilterNode) :
    (node.textTree.map Text.pointsOf).HasNoPairs := by
  intro points member
  rw [TextTree.texts_map] at member
  obtain ⟨text, -, rfl⟩ := List.mem_map.mp member
  rw [Text.map_val_pointsOf]
  exact Text.hasNoPairs_map_toNat text.toList

end FilterNode

end Tabular
