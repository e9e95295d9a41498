import Tabular.Filter.Document
import Tabular.Proofs.Filter.Conditions
import Tabular.Proofs.Json.RoundTrip

namespace Tabular

/-!
# The text of a filter tree

A filter tree is told by its canonical text, as long as no condition compares with a date or a
moment. Such values are written as texts, so a tree with one and a tree with its text would be
written alike.
-/

namespace Json

/-- Objects that agree up to the order of members have the same members up to order. -/
theorem perm_of_sorted_object_eq
    {members others : List (String × Json)}
    (same : sorted (.object members) = sorted (.object others)) :
    (members.map fun member => (member.1, member.2.sorted)).Perm
      (others.map fun member => (member.1, member.2.sorted)) := by
  rw [sorted_object, sorted_object, Json.object.injEq, ← sortMembers_map,
    ← sortMembers_map] at same
  have ownOrder := List.mergeSort_perm
    (members.map fun member => (member.1, member.2.sorted))
    fun left right => !decide (right.1 < left.1)
  have otherOrder := List.mergeSort_perm
    (others.map fun member => (member.1, member.2.sorted))
    fun left right => !decide (right.1 < left.1)
  rw [sortMembers, sortMembers] at same
  exact (ownOrder.symm.trans (.of_eq same)).trans otherOrder

/-- Objects that agree up to the order of members agree in the member of each key. -/
theorem sorted_eq_of_mem
    {members others : List (String × Json)}
    (same : sorted (.object members) = sorted (.object others))
    (distinct : (others.map Prod.fst).Nodup)
    (key : String)
    (value other : Json)
    (member : (key, value) ∈ members)
    (otherMember : (key, other) ∈ others) :
    value.sorted = other.sorted := by
  have image :
      (key, value.sorted) ∈
        others.map fun member => (member.1, member.2.sorted) :=
    (perm_of_sorted_object_eq same).subset
      (List.mem_map.mpr ⟨(key, value), member, rfl⟩)
  obtain ⟨⟨_, found⟩, isMember, isImage⟩ := List.mem_map.mp image
  obtain ⟨rfl, sameValue⟩ := Prod.mk.inj isImage
  have isOther : found = other :=
    congrArg Prod.snd
      (List.inj_on_of_nodup_map distinct isMember otherMember rfl)
  rw [← sameValue, isOther]

/-- An optional text as a document has no members that could be in another order. -/
theorem sorted_ofOption_text
    (value : Option String) :
    (ofOption text value).sorted = ofOption text value := by
  cases value <;>
    rfl

/-- An optional text is told by its document. -/
theorem ofOption_text_injective
    {first second : Option String}
    (same : ofOption text first = ofOption text second) :
    first = second := by
  cases first <;> cases second <;>
    simp_all [ofOption]

end Json

/-- The cell is neither a date nor a moment, so that a document keeps it as it is. -/
def Cell.isPlain : Cell → Bool
  | .date _ => false
  | .moment _ => false
  | _ => true

/-- A plain cell is told by its document. -/
theorem Cell.toJson_injective_of_plain
    {cell other : Cell}
    (cellIsPlain : cell.isPlain)
    (otherIsPlain : other.isPlain)
    (same : cell.toJson = other.toJson) :
    cell = other := by
  cases cell <;> cases other <;>
    simp_all [isPlain, toJson]

theorem Cell.sorted_toJson
    (cell : Cell) :
    cell.toJson.sorted = cell.toJson := by
  cases cell <;>
    rfl

/-! ## Documents of trees -/

namespace Json

/--
The document of a filter tree. Its parts may be any texts, the names of its logics as well, and its
members stand in the order in which a tree lists them.
-/
inductive IsFilterTree : Json → Prop where
  | condition (id : String) (field operator : Option String) (value : Cell) :
      IsFilterTree
        (.object
          [("id", .text id), ("type", .text "condition"), ("field", .ofOption .text field),
            ("operator", .ofOption .text operator), ("value", value.toJson)])
  | group (id logic : String) (children : List Json)
      (areTrees : ∀ child ∈ children, IsFilterTree child) :
      IsFilterTree
        (.object
          [("id", .text id), ("type", .text "group"), ("logic", .text logic),
            ("children", .array children)])

/-- Arrays that agree are the same where each element is told from the others. -/
theorem eq_of_map_sorted_eq
    {elements others : List Json}
    (told : ∀ element ∈ elements, ∀ other ∈ others,
      element.sorted = other.sorted → element = other)
    (same : elements.map sorted = others.map sorted) :
    elements = others := by
  induction elements generalizing others with
  | nil =>
      exact (List.map_eq_nil_iff.mp same.symm).symm
  | cons element rest inductionHypothesis =>
      obtain ⟨other, otherRest, rfl, sameFirst, sameRest⟩ := List.map_eq_cons_iff.mp same.symm
      have first : element = other :=
        told element List.mem_cons_self other List.mem_cons_self sameFirst.symm
      have later : rest = otherRest :=
        inductionHypothesis (fun found member otherFound otherMember =>
          told found (List.mem_cons_of_mem element member) otherFound
            (List.mem_cons_of_mem other otherMember)) sameRest.symm
      rw [first, later]

/-- Documents of trees that agree up to the order of members are the same. -/
theorem IsFilterTree.eq_of_sorted_eq
    {document other : Json}
    (isTree : document.IsFilterTree)
    (otherIsTree : other.IsFilterTree)
    (same : document.sorted = other.sorted) :
    document = other := by
  induction isTree generalizing other with
  | condition id field operator value =>
      cases otherIsTree with
      | condition otherId otherField otherOperator otherValue =>
          have agree := sorted_eq_of_mem same (by simp)
          have sameId : text id = .text otherId :=
            agree "id" (.text id) (.text otherId) (by simp) (by simp)
          have sameField := agree "field" (.ofOption .text field) (.ofOption .text otherField)
            (by simp) (by simp)
          have sameOperator :=
            agree "operator" (.ofOption .text operator) (.ofOption .text otherOperator)
              (by simp) (by simp)
          have sameValue := agree "value" value.toJson otherValue.toJson (by simp) (by simp)
          rw [sorted_ofOption_text, sorted_ofOption_text] at sameField sameOperator
          rw [Cell.sorted_toJson, Cell.sorted_toJson] at sameValue
          rw [sameId, sameField, sameOperator, sameValue]
      | group otherId otherLogic others =>
          have sameType : text "condition" = .text "group" :=
            sorted_eq_of_mem same (by simp) "type" (.text "condition") (.text "group")
              (by simp) (by simp)
          simp at sameType
  | group id logic children areTrees inductionHypothesis =>
      cases otherIsTree with
      | condition otherId otherField otherOperator otherValue =>
          have sameType : text "group" = .text "condition" :=
            sorted_eq_of_mem same (by simp) "type" (.text "group") (.text "condition")
              (by simp) (by simp)
          simp at sameType
      | group otherId otherLogic others othersAreTrees =>
          have agree := sorted_eq_of_mem same (by simp)
          have sameId : text id = .text otherId :=
            agree "id" (.text id) (.text otherId) (by simp) (by simp)
          have sameLogic : text logic = .text otherLogic :=
            agree "logic" (.text logic) (.text otherLogic) (by simp) (by simp)
          have sameElements : array (sortedElements children) = .array (sortedElements others) :=
            agree "children" (.array children) (.array others) (by simp) (by simp)
          rw [sortedElements_eq, sortedElements_eq, array.injEq] at sameElements
          have sameChildren : children = others :=
            eq_of_map_sorted_eq (fun child member otherChild otherMember =>
              inductionHypothesis child member (othersAreTrees otherChild otherMember))
              sameElements
          rw [sameId, sameLogic, sameChildren]

/-- Documents of trees with the same text are the same. -/
theorem IsFilterTree.eq_of_written_eq
    {document other : Json}
    (isTree : document.IsFilterTree)
    (otherIsTree : other.IsFilterTree)
    (same : document.written = other.written) :
    document = other :=
  isTree.eq_of_sorted_eq otherIsTree (sorted_eq_of_written_eq same)

end Json

namespace FilterNode

/-- No condition of the tree compares with a date or a moment. -/
def IsPlain (node : FilterNode) : Prop :=
  ∀ leaf ∈ node.conditions, leaf.value.isPlain

theorem logic_eq_of_name_eq
    {logic other : Logic}
    (same : logic.name = other.name) :
    logic = other := by
  cases logic <;> cases other <;>
    simp_all [Logic.name]

theorem toJsonWith_condition
    (writeCell : Cell → Json)
    (leaf : Condition) :
    toJsonWith writeCell (.condition leaf) =
      .object
        [("id", .text leaf.id), ("type", .text "condition"),
          ("field", .ofOption .text leaf.field), ("operator", .ofOption .text leaf.operator),
          ("value", writeCell leaf.value)] :=
  rfl

theorem toJsonWith_group
    (writeCell : Cell → Json)
    (id : String)
    (logic : Logic)
    (children : List FilterNode) :
    toJsonWith writeCell (.group id logic children) =
      .object
        [("id", .text id), ("type", .text "group"), ("logic", .text logic.name),
          ("children", .array (children.map (toJsonWith writeCell)))] := by
  have childrenAreWritten :
      FilterDraft.allToJson (draftsWith writeCell children) =
        children.map (toJsonWith writeCell) := by
    induction children with
    | nil =>
        rfl
    | cons child rest inductionHypothesis =>
        rw [draftsWith, FilterDraft.allToJson, inductionHypothesis, List.map_cons, toJsonWith]
  rw [toJsonWith, draftWith, FilterDraft.toJson, childrenAreWritten]

mutual

theorem isFilterTree_toJson :
    ∀ node : FilterNode, node.toJson.IsFilterTree
  | .condition leaf => by
      rw [toJson, toJsonWith_condition]
      exact .condition leaf.id leaf.field leaf.operator leaf.value
  | .group id logic children => by
      rw [toJson, toJsonWith_group]
      exact .group id logic.name _ (isFilterTree_of_mem_map_toJson children)

theorem isFilterTree_of_mem_map_toJson :
    ∀ nodes : List FilterNode,
      ∀ document ∈ nodes.map toJson, document.IsFilterTree
  | [] => by
      simp
  | node :: rest => by
      rw [List.map_cons, List.forall_mem_cons]
      exact ⟨isFilterTree_toJson node, isFilterTree_of_mem_map_toJson rest⟩

end

mutual

/-- Plain trees with the same documents are the same. -/
theorem eq_of_toJson_eq :
    ∀ node other : FilterNode, node.IsPlain → other.IsPlain →
      node.toJson = other.toJson → node = other
  | .condition leaf, .condition other, leafIsPlain, otherIsPlain, same => by
      simp only [toJson, toJsonWith_condition, Json.object.injEq, List.cons.injEq,
        Prod.mk.injEq, Json.text.injEq, and_true, true_and] at same
      obtain ⟨sameId, sameField, sameOperator, sameValue⟩ := same
      have sameCell : leaf.value = other.value :=
        Cell.toJson_injective_of_plain (leafIsPlain leaf (List.mem_singleton_self leaf))
          (otherIsPlain other (List.mem_singleton_self other)) sameValue
      rw [FilterNode.condition.injEq]
      cases leaf
      cases other
      rw [Condition.mk.injEq]
      exact ⟨sameId, Json.ofOption_text_injective sameField,
        Json.ofOption_text_injective sameOperator, sameCell⟩
  | .condition leaf, .group id logic children, _, _, same => by
      simp [toJson, toJsonWith_condition, toJsonWith_group] at same
  | .group id logic children, .condition leaf, _, _, same => by
      simp [toJson, toJsonWith_condition, toJsonWith_group] at same
  | .group id logic children, .group otherId otherLogic others, nodeIsPlain,
      otherIsPlain, same => by
      simp only [toJson, toJsonWith_group, Json.object.injEq, List.cons.injEq, Prod.mk.injEq,
        Json.text.injEq, Json.array.injEq, and_true, true_and] at same
      obtain ⟨sameId, sameLogic, sameChildren⟩ := same
      rw [sameId, logic_eq_of_name_eq sameLogic,
        eq_of_map_toJson_eq children others nodeIsPlain otherIsPlain sameChildren]

theorem eq_of_map_toJson_eq :
    ∀ nodes others : List FilterNode,
      (∀ leaf ∈ conditionsAmong nodes, leaf.value.isPlain) →
        (∀ leaf ∈ conditionsAmong others, leaf.value.isPlain) →
          nodes.map toJson = others.map toJson → nodes = others
  | [], [], _, _, _ => rfl
  | [], _ :: _, _, _, same => by
      cases same
  | _ :: _, [], _, _, same => by
      cases same
  | node :: rest, other :: others, nodesArePlain, othersArePlain, same => by
      obtain ⟨sameFirst, sameRest⟩ := List.cons.inj same
      rw [eq_of_toJson_eq node other
          (fun leaf member =>
            nodesArePlain leaf (List.mem_append_left _ member))
          (fun leaf member =>
            othersArePlain leaf (List.mem_append_left _ member)) sameFirst,
        eq_of_map_toJson_eq rest others
          (fun leaf member =>
            nodesArePlain leaf (List.mem_append_right _ member))
          (fun leaf member =>
            othersArePlain leaf (List.mem_append_right _ member)) sameRest]

end

/-- Plain trees with the same text are the same. -/
theorem eq_of_written_toJson_eq
    {node other : FilterNode}
    (nodeIsPlain : node.IsPlain)
    (otherIsPlain : other.IsPlain)
    (same : node.toJson.written = other.toJson.written) :
    node = other :=
  eq_of_toJson_eq node other nodeIsPlain otherIsPlain
    (node.isFilterTree_toJson.eq_of_written_eq other.isFilterTree_toJson same)

/-! ## Edits of plain trees -/

instance : DecidablePred IsPlain :=
  fun node =>
    inferInstanceAs (Decidable (∀ leaf ∈ node.conditions, leaf.value.isPlain))

/-- The changes bring no dates and moments into a tree. -/
structure Changes.ArePlain (changes : Changes) : Prop where
  value : changes.value.all Cell.isPlain
  children : ∀ leaf ∈ conditionsAmong (changes.children.getD []),
    leaf.value.isPlain

instance : DecidablePred Changes.ArePlain :=
  fun changes =>
    decidable_of_iff
      (changes.value.all Cell.isPlain ∧
        ∀ leaf ∈ conditionsAmong (changes.children.getD []),
          leaf.value.isPlain)
      ⟨fun plain => ⟨plain.1, plain.2⟩,
        fun plain => ⟨plain.value, plain.children⟩⟩

namespace IsPlain

variable {node added : FilterNode}

theorem insert
    (nodeIsPlain : node.IsPlain)
    (addedIsPlain : added.IsPlain)
    (parent : String) :
    (FilterNode.insert parent added node).IsPlain := by
  intro leaf member
  rcases conditions_insert parent added node leaf member with old | new
  · exact nodeIsPlain leaf old
  · exact addedIsPlain leaf new

theorem remove
    (nodeIsPlain : node.IsPlain)
    (unwanted : String) :
    (FilterNode.remove unwanted node).IsPlain :=
  fun leaf member =>
    nodeIsPlain leaf (conditions_remove unwanted node leaf member)

theorem applyTo
    (nodeIsPlain : node.IsPlain)
    {changes : Changes}
    (changesArePlain : changes.ArePlain)
    {changed : FilterNode}
    (applied : changes.applyTo node = .ok changed) :
    changed.IsPlain := by
  cases node with
  | condition old =>
      obtain ⟨_, rfl⟩ := Changes.applyTo_condition_eq_ok_iff.mp applied
      intro leaf member
      rw [List.mem_singleton.mp member, Changes.ofCondition]
      cases asked : changes.value with
      | none =>
          exact nodeIsPlain old (List.mem_singleton_self old)
      | some value =>
          have valueIsPlain := changesArePlain.value
          rwa [asked] at valueIsPlain
  | group id logic children =>
      obtain ⟨_, changedLogic, rfl⟩ := Changes.group_of_applyTo_eq_ok applied
      cases asked : changes.children with
      | none =>
          exact nodeIsPlain
      | some given =>
          have childrenArePlain := changesArePlain.children
          rwa [asked] at childrenArePlain

theorem updateNodes
    (nodeIsPlain : node.IsPlain)
    {changes : Changes}
    (changesArePlain : changes.ArePlain)
    {wanted : String}
    {updated : FilterNode}
    (performed : FilterNode.updateNodes wanted changes node = .ok updated) :
    updated.IsPlain := by
  intro leaf member
  rcases conditions_updateNodes wanted changes node updated performed leaf
    member with old | ⟨changed, isChanged, inside⟩
  · exact nodeIsPlain leaf old
  · obtain ⟨found, isFound, applied⟩ :=
      (outermost_updateNodes wanted changes node updated performed).exists_of_mem
        isChanged
    have foundIsPlain : found.IsPlain := fun inner isInner =>
      nodeIsPlain inner (conditions_outermost wanted node found isFound inner isInner)
    exact foundIsPlain.applyTo changesArePlain applied leaf inside

end IsPlain

end FilterNode

end Tabular
