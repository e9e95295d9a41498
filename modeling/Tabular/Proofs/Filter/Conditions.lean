import Mathlib.Data.List.Forall2
import Tabular.Filter.Node
import Tabular.Proofs.Outcome

namespace Tabular.FilterNode

/-!
# The conditions of a filter tree

The conditions at the leaves of a tree, and what each edit does to them. An edit of the nodes with
an identifier happens at the outermost ones: these are changed one by one, and the conditions that
lie elsewhere stay.
-/

mutual

/-- The conditions of a tree, from left to right. -/
def conditions : FilterNode → List Condition
  | .condition leaf => [leaf]
  | .group _ _ children => conditionsAmong children

/-- The conditions of several trees, from left to right. -/
def conditionsAmong : List FilterNode → List Condition
  | [] => []
  | child :: rest => conditions child ++ conditionsAmong rest

end

mutual

/-- The nodes with an identifier that no other such node contains. -/
def outermost (wanted : String) : FilterNode → List FilterNode
  | .condition leaf => if leaf.id = wanted then [.condition leaf] else []
  | .group id logic children =>
      if id = wanted then [.group id logic children]
      else outermostAmong wanted children

/-- The nodes of several trees with an identifier that no other such node contains. -/
def outermostAmong (wanted : String) : List FilterNode → List FilterNode
  | [] => []
  | child :: rest => outermost wanted child ++ outermostAmong wanted rest

end

@[simp] theorem conditionsAmong_append
    (first second : List FilterNode) :
    conditionsAmong (first ++ second) =
      conditionsAmong first ++ conditionsAmong second := by
  induction first with
  | nil =>
      rfl
  | cons child rest inductionHypothesis =>
      simp [conditionsAmong, inductionHypothesis]

/-! ## Adding and removing nodes -/

mutual

/-- Adding a node adds no other conditions than its own. -/
theorem conditions_insert
    (parent : String)
    (added : FilterNode) :
    ∀ (node : FilterNode), ∀ leaf ∈ (insert parent added node).conditions,
      leaf ∈ node.conditions ∨ leaf ∈ added.conditions
  | .condition _, _, member => .inl member
  | .group id logic children, leaf, member => by
      rw [insert] at member
      split at member
      · simpa [conditions, conditionsAmong] using member
      · exact conditionsAmong_insertAmong parent added children leaf member

theorem conditionsAmong_insertAmong
    (parent : String)
    (added : FilterNode) :
    ∀ (nodes : List FilterNode),
      ∀ leaf ∈ conditionsAmong (insertAmong parent added nodes),
        leaf ∈ conditionsAmong nodes ∨ leaf ∈ added.conditions
  | [], _, member => .inl member
  | child :: rest, leaf, member => by
      rw [insertAmong, conditionsAmong, List.mem_append] at member
      rw [conditionsAmong, List.mem_append]
      rcases member with inChild | inRest
      · rcases conditions_insert parent added child leaf inChild with old | new
        · exact .inl (.inl old)
        · exact .inr new
      · rcases conditionsAmong_insertAmong parent added rest leaf inRest with
          old | new
        · exact .inl (.inr old)
        · exact .inr new

end

mutual

/-- Removing nodes adds no conditions. -/
theorem conditions_remove
    (unwanted : String) :
    ∀ (node : FilterNode), ∀ leaf ∈ (remove unwanted node).conditions,
      leaf ∈ node.conditions
  | .condition _, _, member => member
  | .group _ _ children, leaf, member =>
      conditionsAmong_removeAmong unwanted children leaf member

theorem conditionsAmong_removeAmong
    (unwanted : String) :
    ∀ (nodes : List FilterNode),
      ∀ leaf ∈ conditionsAmong (removeAmong unwanted nodes),
        leaf ∈ conditionsAmong nodes
  | [], _, member => member
  | child :: rest, leaf, member => by
      rw [conditionsAmong, List.mem_append]
      rw [removeAmong] at member
      split at member
      · exact .inr (conditionsAmong_removeAmong unwanted rest leaf member)
      · rw [conditionsAmong, List.mem_append] at member
        rcases member with inChild | inRest
        · exact .inl (conditions_remove unwanted child leaf inChild)
        · exact .inr (conditionsAmong_removeAmong unwanted rest leaf inRest)

end

/-! ## The outermost nodes -/

/-- A node with the identifier is the only outermost one of its tree. -/
theorem outermost_of_id_eq
    {node : FilterNode}
    {wanted : String}
    (named : node.id = wanted) :
    node.outermost wanted = [node] := by
  cases node with
  | condition leaf =>
      exact if_pos named
  | group id logic children =>
      exact if_pos named

mutual

/-- The first node with an identifier is the first of the outermost ones. -/
theorem find?_eq_head?_outermost
    (wanted : String) :
    ∀ node : FilterNode, node.find? wanted = (node.outermost wanted).head?
  | .condition leaf => by
      rw [find?, outermost]
      split <;> rfl
  | .group id logic children => by
      rw [find?, outermost]
      split
      · rfl
      · exact findAmong?_eq_head?_outermostAmong wanted children

theorem findAmong?_eq_head?_outermostAmong
    (wanted : String) :
    ∀ nodes : List FilterNode,
      findAmong? wanted nodes = (outermostAmong wanted nodes).head?
  | [] => rfl
  | child :: rest => by
      rw [findAmong?, outermostAmong, find?_eq_head?_outermost wanted child,
        findAmong?_eq_head?_outermostAmong wanted rest, List.head?_append]
      cases (child.outermost wanted).head? <;> rfl

end

mutual

/-- The conditions of the outermost nodes with an identifier are conditions of the tree. -/
theorem conditions_outermost
    (wanted : String) :
    ∀ (node : FilterNode), ∀ found ∈ node.outermost wanted,
      ∀ leaf ∈ found.conditions, leaf ∈ node.conditions
  | .condition leaf, found, isFound, inner, member => by
      rw [outermost] at isFound
      split at isFound
      · rw [List.mem_singleton] at isFound
        rwa [isFound] at member
      · exact absurd isFound List.not_mem_nil
  | .group id logic children, found, isFound, inner, member => by
      rw [outermost] at isFound
      split at isFound
      · rw [List.mem_singleton] at isFound
        rwa [isFound] at member
      · exact conditionsAmong_outermostAmong wanted children found isFound inner
          member

theorem conditionsAmong_outermostAmong
    (wanted : String) :
    ∀ (nodes : List FilterNode), ∀ found ∈ outermostAmong wanted nodes,
      ∀ leaf ∈ found.conditions, leaf ∈ conditionsAmong nodes
  | [], _, isFound, _, _ => absurd isFound List.not_mem_nil
  | child :: rest, found, isFound, leaf, member => by
      rw [outermostAmong, List.mem_append] at isFound
      rw [conditionsAmong, List.mem_append]
      rcases isFound with inChild | inRest
      · exact .inl (conditions_outermost wanted child found inChild leaf member)
      · exact .inr
          (conditionsAmong_outermostAmong wanted rest found inRest leaf member)

end

/-! ## Changing nodes -/

namespace Changes

/-- A node with the changes made. -/
def applyTo (changes : Changes) : FilterNode → Outcome FilterNode
  | .condition leaf => (changes.applyToCondition leaf).map .condition
  | .group id logic children => changes.applyToGroup id logic children

/-- A condition with those parts changed that are present. -/
def ofCondition (changes : Changes) (condition : Condition) : Condition :=
  { condition with
    field := changes.field.getD condition.field
    operator := changes.operator.getD condition.operator
    value := changes.value.getD condition.value }

/-- No name is refused only when there is none. -/
theorem refuse_eq_ok_iff
    {onGroup : Bool}
    {names : List String} :
    refuse onGroup names = .ok () ↔ names = [] := by
  rw [refuse]
  cases names <;>
    simp

/-- A name stands for a part that is present. -/
theorem named_eq_nil_iff
    {α : Type}
    {name : String}
    {part : Option α} :
    named name part = [] ↔ part = none := by
  cases part <;>
    simp [named]

/-- A changed condition has the changed parts, and no parts of a group were asked for. -/
theorem applyTo_condition_eq_ok_iff
    {changes : Changes}
    {leaf : Condition}
    {node : FilterNode} :
    changes.applyTo (.condition leaf) = .ok node ↔
      (changes.logic = none ∧ changes.children = none ∧
          changes.unknown = []) ∧
        node = .condition (changes.ofCondition leaf) := by
  have applied :
      changes.applyTo (.condition leaf) =
        (refuse false (changes.groupNames ++ changes.unknown) >>=
          fun _ => .ok (.condition (changes.ofCondition leaf))) := by
    rw [applyTo, applyToCondition]
    cases refuse false (changes.groupNames ++ changes.unknown) <;> rfl
  rw [applied, Outcome.bind_eq_ok_iff]
  constructor
  · rintro ⟨_, accepted, same⟩
    rw [refuse_eq_ok_iff, groupNames] at accepted
    simp only [List.append_eq_nil_iff, named_eq_nil_iff] at accepted
    exact
      ⟨⟨accepted.1.1, accepted.1.2, accepted.2⟩, (Except.ok.inj same).symm⟩
  · rintro ⟨⟨noLogic, noChildren, noUnknown⟩, rfl⟩
    refine ⟨(), ?_, rfl⟩
    simp [refuse_eq_ok_iff, groupNames, named_eq_nil_iff, noLogic, noChildren,
      noUnknown]

/-- A changed group keeps its identifier, and no parts of a condition were asked for. -/
theorem group_of_applyTo_eq_ok
    {changes : Changes}
    {id : String}
    {logic : Logic}
    {children : List FilterNode}
    {node : FilterNode}
    (applied : changes.applyTo (.group id logic children) = .ok node) :
    (changes.field = none ∧ changes.operator = none ∧
        changes.value = none) ∧
      ∃ changedLogic,
        node = .group id changedLogic (changes.children.getD children) := by
  rw [applyTo, applyToGroup, Outcome.bind_eq_ok_iff] at applied
  obtain ⟨_, accepted, grouped⟩ := applied
  obtain ⟨changedLogic, same⟩ :
      ∃ changedLogic,
        node = .group id changedLogic (changes.children.getD children) := by
    cases asked : changes.logic with
    | none =>
        rw [asked] at grouped
        exact ⟨logic, (Except.ok.inj grouped).symm⟩
    | some value =>
        rw [asked] at grouped
        obtain ⟨changedLogic, _, same⟩ := Outcome.bind_eq_ok_iff.mp grouped
        exact ⟨changedLogic, (Except.ok.inj same).symm⟩
  rw [refuse_eq_ok_iff] at accepted
  simp only [conditionNames, List.append_eq_nil_iff, named_eq_nil_iff]
    at accepted
  exact
    ⟨⟨accepted.1.1.1, accepted.1.1.2, accepted.1.2⟩, changedLogic, same⟩

theorem id_of_applyTo_eq_ok
    {changes : Changes}
    {node changed : FilterNode}
    (applied : changes.applyTo node = .ok changed) :
    changed.id = node.id := by
  cases node with
  | condition leaf =>
      obtain ⟨_, rfl⟩ := applyTo_condition_eq_ok_iff.mp applied
      rfl
  | group id logic children =>
      obtain ⟨_, _, rfl⟩ := group_of_applyTo_eq_ok applied
      rfl

end Changes

/-- A change of a node with the identifier changes that node only. -/
theorem updateNodes_of_id_eq
    {node : FilterNode}
    {wanted : String}
    (changes : Changes)
    (named : node.id = wanted) :
    updateNodes wanted changes node = changes.applyTo node := by
  cases node with
  | condition leaf =>
      exact if_pos named
  | group id logic children =>
      exact if_pos named

/-- Every outermost node with the identifier becomes a changed node, in the same order. -/
abbrev ChangedInto (changes : Changes) : List FilterNode → List FilterNode → Prop :=
  List.Forall₂ fun found changed => changes.applyTo found = .ok changed

/-- Every changed node comes from a node before. -/
theorem ChangedInto.exists_of_mem
    {changes : Changes}
    {before after : List FilterNode}
    (changedInto : ChangedInto changes before after)
    {changed : FilterNode}
    (member : changed ∈ after) :
    ∃ found ∈ before, changes.applyTo found = .ok changed := by
  induction changedInto with
  | nil =>
      exact absurd member List.not_mem_nil
  | cons applied _ inductionHypothesis =>
      rcases List.mem_cons.mp member with rfl | later
      · exact ⟨_, List.mem_cons_self, applied⟩
      · obtain ⟨found, isFound, same⟩ := inductionHypothesis later
        exact ⟨found, List.mem_cons_of_mem _ isFound, same⟩

/-- A changed node with the identifier is the only outermost one of its tree. -/
theorem outermost_of_applyTo_eq_ok
    {node changed : FilterNode}
    {wanted : String}
    {changes : Changes}
    (named : node.id = wanted)
    (applied : changes.applyTo node = .ok changed) :
    changed.outermost wanted = [changed] :=
  outermost_of_id_eq ((Changes.id_of_applyTo_eq_ok applied).trans named)

/-- A change of a group without the identifier changes its members. -/
theorem updateAmong_of_updateNodes
    {wanted id : String}
    {logic : Logic}
    {children : List FilterNode}
    {changes : Changes}
    {updated : FilterNode}
    (other : id ≠ wanted)
    (performed :
      updateNodes wanted changes (.group id logic children) = .ok updated) :
    ∃ changedChildren,
      updateAmong wanted changes children = .ok changedChildren ∧
        updated = .group id logic changedChildren := by
  rw [updateNodes, if_neg other] at performed
  cases among : updateAmong wanted changes children with
  | error fault =>
      rw [among] at performed
      cases performed
  | ok changedChildren =>
      rw [among] at performed
      exact ⟨changedChildren, rfl, (Except.ok.inj performed).symm⟩

/-- Every node before becomes a changed node. -/
theorem ChangedInto.exists_changed
    {changes : Changes}
    {before after : List FilterNode}
    (changedInto : ChangedInto changes before after)
    {found : FilterNode}
    (member : found ∈ before) :
    ∃ changed ∈ after, changes.applyTo found = .ok changed := by
  induction changedInto with
  | nil =>
      exact absurd member List.not_mem_nil
  | cons applied _ inductionHypothesis =>
      rcases List.mem_cons.mp member with rfl | later
      · exact ⟨_, List.mem_cons_self, applied⟩
      · obtain ⟨changed, isChanged, same⟩ := inductionHypothesis later
        exact ⟨changed, List.mem_cons_of_mem _ isChanged, same⟩

mutual

/-- A change happens at the outermost nodes with the identifier. -/
theorem outermost_updateNodes
    (wanted : String)
    (changes : Changes) :
    ∀ node updated : FilterNode,
      updateNodes wanted changes node = .ok updated →
        ChangedInto changes (node.outermost wanted) (updated.outermost wanted)
  | .condition leaf, updated, performed => by
      by_cases named : (FilterNode.condition leaf).id = wanted
      · rw [updateNodes_of_id_eq changes named] at performed
        rw [outermost_of_id_eq named, outermost_of_applyTo_eq_ok named performed]
        exact .cons performed .nil
      · have other : leaf.id ≠ wanted := named
        rw [updateNodes, if_neg other] at performed
        cases performed
        rw [outermost, if_neg other]
        exact .nil
  | .group id logic children, updated, performed => by
      by_cases named : (FilterNode.group id logic children).id = wanted
      · rw [updateNodes_of_id_eq changes named] at performed
        rw [outermost_of_id_eq named, outermost_of_applyTo_eq_ok named performed]
        exact .cons performed .nil
      · have other : id ≠ wanted := named
        obtain ⟨changedChildren, among, rfl⟩ :=
          updateAmong_of_updateNodes other performed
        rw [outermost, outermost, if_neg other, if_neg other]
        exact outermostAmong_updateAmong wanted changes children
          changedChildren among

theorem outermostAmong_updateAmong
    (wanted : String)
    (changes : Changes) :
    ∀ nodes updated : List FilterNode,
      updateAmong wanted changes nodes = .ok updated →
        ChangedInto changes (outermostAmong wanted nodes)
          (outermostAmong wanted updated)
  | [], updated, performed => by
      cases performed
      exact .nil
  | child :: rest, updated, performed => by
      rw [updateAmong] at performed
      obtain ⟨changedChild, inChild, performed⟩ :=
        Outcome.bind_eq_ok_iff.mp performed
      obtain ⟨changedRest, inRest, performed⟩ :=
        Outcome.bind_eq_ok_iff.mp performed
      cases performed
      exact List.rel_append
        (outermost_updateNodes wanted changes child changedChild inChild)
        (outermostAmong_updateAmong wanted changes rest changedRest inRest)

end

mutual

/-- After a change, a condition is an old one or lies in a changed node. -/
theorem conditions_updateNodes
    (wanted : String)
    (changes : Changes) :
    ∀ node updated : FilterNode,
      updateNodes wanted changes node = .ok updated →
        ∀ leaf ∈ updated.conditions,
          leaf ∈ node.conditions ∨
            ∃ changed ∈ updated.outermost wanted, leaf ∈ changed.conditions
  | .condition old, updated, performed, leaf, member => by
      by_cases named : (FilterNode.condition old).id = wanted
      · rw [updateNodes_of_id_eq changes named] at performed
        rw [outermost_of_applyTo_eq_ok named performed]
        exact .inr ⟨updated, List.mem_singleton_self updated, member⟩
      · have other : old.id ≠ wanted := named
        rw [updateNodes, if_neg other] at performed
        cases performed
        exact .inl member
  | .group id logic children, updated, performed, leaf, member => by
      by_cases named : (FilterNode.group id logic children).id = wanted
      · rw [updateNodes_of_id_eq changes named] at performed
        rw [outermost_of_applyTo_eq_ok named performed]
        exact .inr ⟨updated, List.mem_singleton_self updated, member⟩
      · have other : id ≠ wanted := named
        obtain ⟨changedChildren, among, rfl⟩ :=
          updateAmong_of_updateNodes other performed
        rw [outermost, if_neg other]
        exact conditionsAmong_updateAmong wanted changes children
          changedChildren among leaf member

theorem conditionsAmong_updateAmong
    (wanted : String)
    (changes : Changes) :
    ∀ nodes updated : List FilterNode,
      updateAmong wanted changes nodes = .ok updated →
        ∀ leaf ∈ conditionsAmong updated,
          leaf ∈ conditionsAmong nodes ∨
            ∃ changed ∈ outermostAmong wanted updated,
              leaf ∈ changed.conditions
  | [], updated, performed, leaf, member => by
      cases performed
      exact .inl member
  | child :: rest, updated, performed, leaf, member => by
      rw [updateAmong] at performed
      obtain ⟨changedChild, inChild, performed⟩ :=
        Outcome.bind_eq_ok_iff.mp performed
      obtain ⟨changedRest, inRest, performed⟩ :=
        Outcome.bind_eq_ok_iff.mp performed
      cases performed
      rw [conditionsAmong, List.mem_append] at member
      rw [conditionsAmong, List.mem_append, outermostAmong]
      rcases member with memberOfChild | memberOfRest
      · rcases conditions_updateNodes wanted changes child changedChild inChild
          leaf memberOfChild with old | ⟨changed, isChanged, inside⟩
        · exact .inl (.inl old)
        · exact .inr ⟨changed, List.mem_append_left _ isChanged, inside⟩
      · rcases conditionsAmong_updateAmong wanted changes rest changedRest inRest
          leaf memberOfRest with old | ⟨changed, isChanged, inside⟩
        · exact .inl (.inr old)
        · exact .inr ⟨changed, List.mem_append_right _ isChanged, inside⟩

end

end Tabular.FilterNode
