import Tabular.Proofs.Filter.TextTree
import Tabular.Workspace.Basic

namespace Tabular

/-!
# The keys of filtered views

A filtered view is remembered under the version of the table that it is made from, the text of the
filter tree and whether case counts. The quotes, escapes, numerals and brackets of the text leave no
second reading, so a key tells the tree, and a remembered view is never one of another filter. Only
surrogates that form a pair in a text would be taken for the character that the pair stands for.
-/

namespace FilterNode

variable {node other : FilterNode}

/-- Trees without dates and moments are told by their texts. -/
theorem written_toJson_inj
    (nodeIsPlain : node.IsPlain)
    (otherIsPlain : other.IsPlain) :
    node.toJson.written = other.toJson.written ↔ node = other :=
  ⟨eq_of_written_toJson_eq nodeIsPlain otherIsPlain,
    congrArg fun tree : FilterNode => tree.toJson.written⟩

/-- The key of a filtered view tells the version, the tree and whether case counts. -/
theorem filteredKey_inj
    (nodeIsPlain : node.IsPlain)
    (otherIsPlain : other.IsPlain)
    (version versionToo : Nat)
    (caseSensitive caseSensitiveToo : Bool) :
    ViewKey.filtered version node.toJson.written caseSensitive =
        .filtered versionToo other.toJson.written caseSensitiveToo ↔
      version = versionToo ∧ node = other ∧ caseSensitive = caseSensitiveToo := by
  rw [ViewKey.filtered.injEq, written_toJson_inj nodeIsPlain otherIsPlain]

/-- The text of a condition with a value. -/
def textWith (leaf : Condition) (value : Cell) : String :=
  (toJson (.condition { leaf with value })).written

/-- Different values give a condition different texts. -/
theorem nodup_map_textWith
    {values : List Cell}
    (arePlain : ∀ value ∈ values, value.isPlain)
    (distinct : values.Nodup)
    (leaf : Condition) :
    (values.map (textWith leaf)).Nodup := by
  refine distinct.map_on fun value isValue valueToo isValueToo same => ?_
  have withIsPlain : ∀ found ∈ values, (condition { leaf with value := found }).IsPlain := by
    intro found member inner isInner
    rw [List.mem_singleton.mp isInner]
    exact arePlain found member
  have sameTree := eq_of_written_toJson_eq (withIsPlain value isValue)
    (withIsPlain valueToo isValueToo) same
  exact congrArg Condition.value (condition.inj sameTree)

/-- The number one as an integer and as a float, its digit, and what holds. -/
def ones : List Cell :=
  [.int 1, .float (Binary64.ofNat 1), .text "1", .bool true]

/--
Trees whose texts are any code points are written alike exactly when these have the same units. So
they are told by what is written, unless surrogates form a pair in one of their texts. A filter tree
is written as the tree of its code points, where none do. So filter trees whose values are neither
dates nor moments are told by their texts, and by the keys of their filtered views; and the values
that look like one give different texts.
-/
theorem text_tells_tree
    (tree other : TextTree (List Text.Point)) :
    (tree.written = other.written ↔ tree.map Text.unitsOf = other.map Text.unitsOf) ∧
    (tree.HasNoPairs → other.HasNoPairs → (tree.written = other.written ↔ tree = other)) ∧
    (∀ node : FilterNode,
      node.toJson.written = (node.textTree.map Text.pointsOf).written ∧
        (node.textTree.map Text.pointsOf).HasNoPairs) ∧
    (∀ node other : FilterNode, node.IsPlain → other.IsPlain →
      (node.toJson.written = other.toJson.written ↔ node = other) ∧
        ∀ version versionToo caseSensitive caseSensitiveToo,
          ViewKey.filtered version node.toJson.written caseSensitive =
              .filtered versionToo other.toJson.written caseSensitiveToo ↔
            version = versionToo ∧ node = other ∧ caseSensitive = caseSensitiveToo) ∧
    ∀ leaf : Condition, (ones.map (textWith leaf)).Nodup :=
  ⟨TextTree.written_inj, TextTree.written_inj_of_hasNoPairs,
    fun node => ⟨written_toJson_eq node, hasNoPairs_textTree node⟩,
    fun _ _ nodeIsPlain otherIsPlain =>
      ⟨written_toJson_inj nodeIsPlain otherIsPlain,
        filteredKey_inj nodeIsPlain otherIsPlain⟩,
    nodup_map_textWith (by decide) (by decide +kernel)⟩

namespace Sample

/-- A condition with a text that imitates the end of a text and a further member. -/
def imitating : FilterNode :=
  .condition { id := "leaf", field := some "note", value := .text "a\", \"type\": \"group" }

/-- The condition that would be imitated, were quotes not escaped. -/
def imitated : FilterNode :=
  .condition { id := "leaf", field := some "note", value := .text "a" }

/-- A group without members, whose logic has a name of its own. -/
def groupNamed (logic : String) : TextTree (List Text.Point) :=
  .group (Text.pointsOf "root") (Text.pointsOf logic) []

/-- A condition that compares a column with the code points. -/
def comparing (points : List Text.Point) : TextTree (List Text.Point) :=
  .condition (Text.pointsOf "leaf") (.text (Text.pointsOf "note"))
    (.text (Text.pointsOf "is")) (.text points)

/-- Two surrogates that form a pair. -/
def pair : List Text.Point :=
  [0xd880, 0xdc80]

/-- The character that the pair stands for. -/
def paired : List Text.Point :=
  [0x30080]

theorem imitation_is_told :
    (imitating.IsPlain ∧ imitated.IsPlain ∧
      imitating.toJson.written ≠ imitated.toJson.written) ∧
    ((groupNamed "XOR").HasNoPairs ∧ (groupNamed "NOR").HasNoPairs ∧
      (groupNamed "XOR").written ≠ (groupNamed "NOR").written) ∧
    comparing pair ≠ comparing paired ∧
      (comparing pair).written = (comparing paired).written := by
  obtain ⟨-, groups, -, conditions, -⟩ :=
    text_tells_tree (groupNamed "XOR") (groupNamed "NOR")
  obtain ⟨pairs, -⟩ := text_tells_tree (comparing pair) (comparing paired)
  have isPlain : imitating.IsPlain := by decide
  have isPlainToo : imitated.IsPlain := by decide
  have hasNoPairs : (groupNamed "XOR").HasNoPairs := by decide
  have hasNoPairsToo : (groupNamed "NOR").HasNoPairs := by decide
  refine ⟨⟨isPlain, isPlainToo, fun same => ?_⟩, ⟨hasNoPairs, hasNoPairsToo, fun same => ?_⟩,
    fun same => ?_, pairs.mpr rfl⟩
  · have sameTree := (conditions imitating imitated isPlain isPlainToo).1.mp same
    simp [imitating, imitated] at sameTree
  · have sameTree := (groups hasNoPairs hasNoPairsToo).mp same
    have sameLogic := (TextTree.group.inj sameTree).2.1
    exact absurd sameLogic (by decide)
  · have samePart := (TextTree.condition.inj same).2.2.2
    exact absurd (TextPart.text.inj samePart) (by decide)

end Sample

end FilterNode

end Tabular
