import Tabular.Proofs.Filter.Conditions
import Tabular.Proofs.Workspace.Keeping
import Tabular.Proofs.Workspace.Operation

namespace Tabular

/-!
# Which stored conditions have been validated

Three edits store conditions that were not in the filter tree before. An added condition and a tree
that is set are validated as a whole. A change validates the first node with the identifier only: it
takes the given members of a group as they are, and it changes every other outermost node with the
identifier too. So a stored tree has only valid new conditions exactly when these are valid.
-/

namespace FilterNode

mutual

/-- A tree is valid exactly when all of its conditions are. -/
theorem validate_eq_ok_iff
    (types : Assoc ColumnType) :
    ∀ node : FilterNode,
      node.validate types = .ok () ↔
        ∀ leaf ∈ node.conditions, leaf.validate types = .ok ()
  | .condition leaf => by
      simp [validate, conditions]
  | .group _ _ children =>
      validateAll_eq_ok_iff types children

theorem validateAll_eq_ok_iff
    (types : Assoc ColumnType) :
    ∀ nodes : List FilterNode,
      validateAll types nodes = .ok () ↔
        ∀ leaf ∈ conditionsAmong nodes, leaf.validate types = .ok ()
  | [] => by
      simp [validateAll, conditionsAmong]
  | child :: rest => by
      rw [validateAll, Outcome.bind_eq_ok_iff, conditionsAmong,
        List.forall_mem_append, ← validate_eq_ok_iff types child,
        ← validateAll_eq_ok_iff types rest]
      exact
        ⟨fun ⟨_, childIsValid, restIsValid⟩ => ⟨childIsValid, restIsValid⟩,
          fun ⟨childIsValid, restIsValid⟩ => ⟨(), childIsValid, restIsValid⟩⟩

end

/-- The condition that a change makes of a node; a group gives none of its own. -/
def Changes.changedLeaves (changes : Changes) : FilterNode → List Condition
  | .condition leaf => [changes.ofCondition leaf]
  | .group .. => []

end FilterNode

/-- Those of the conditions that are not in a tree are valid. -/
def NewOnesValid (types : Assoc ColumnType) (old : FilterNode) (leaves : List Condition) : Prop :=
  ∀ leaf ∈ leaves, leaf ∉ old.conditions → leaf.validate types = .ok ()

/--
The conditions that an edit stores without having validated them: those of the members that are
given to a group, and what becomes of the nodes that share the identifier with the first one.
-/
def Edit.unchecked (types : Assoc ColumnType) (filter : FilterNode) : Edit → List Condition
  | .updateNode id changes =>
      match filter.outermost id with
      | first :: others =>
          FilterNode.conditionsAmong (changes.children.getD []) ++
            others.flatMap
              (Workspace.completeChanges types first changes).changedLeaves
      | [] => []
  | _ => []

/-- The edit is one of those that validate what they store. -/
def Edit.IsValidating : Edit → Prop
  | .addCondition .. => True
  | .updateNode .. => True
  | .setFilterTree _ => True
  | _ => False

namespace Workspace

open Tabular.Action FilterNode

/-- Changes are completed without other members. -/
theorem children_completeChanges
    (types : Assoc ColumnType)
    (node : FilterNode)
    (changes : FilterNode.Changes) :
    (completeChanges types node changes).children = changes.children := by
  rw [completeChanges.eq_def]
  split
  · split <;>
      rfl
  · rfl

/-- A changed node has the members that it had, or those that are given. -/
theorem mem_conditions_of_applyTo
    {changes : FilterNode.Changes}
    {found changed : FilterNode}
    (applied : changes.applyTo found = .ok changed)
    {leaf : Condition}
    (member : leaf ∈ changed.conditions) :
    leaf ∈ found.conditions ∨ leaf ∈ changes.changedLeaves found ∨
      leaf ∈ conditionsAmong (changes.children.getD []) := by
  cases found with
  | condition old =>
      obtain ⟨_, rfl⟩ := Changes.applyTo_condition_eq_ok_iff.mp applied
      exact .inr (.inl member)
  | group id logic children =>
      obtain ⟨_, changedLogic, rfl⟩ := Changes.group_of_applyTo_eq_ok applied
      cases asked : changes.children with
      | none =>
          rw [asked] at member
          exact .inl member
      | some given =>
          rw [asked] at member
          exact .inr (.inr member)

/-- What a change makes of a condition is a condition of the changed node. -/
theorem mem_conditions_of_mem_changedLeaves
    {changes : FilterNode.Changes}
    {found changed : FilterNode}
    (applied : changes.applyTo found = .ok changed)
    {leaf : Condition}
    (member : leaf ∈ changes.changedLeaves found) :
    leaf ∈ changed.conditions := by
  cases found with
  | condition old =>
      obtain ⟨_, rfl⟩ := Changes.applyTo_condition_eq_ok_iff.mp applied
      exact member
  | group id logic children =>
      exact absurd member List.not_mem_nil

theorem mem_conditions_of_mem_given
    {changes : FilterNode.Changes}
    {found changed : FilterNode}
    (applied : changes.applyTo found = .ok changed)
    {leaf : Condition}
    (member : leaf ∈ conditionsAmong (changes.children.getD [])) :
    leaf ∈ changed.conditions := by
  cases found with
  | condition old =>
      obtain ⟨⟨_, noChildren, _⟩, _⟩ :=
        Changes.applyTo_condition_eq_ok_iff.mp applied
      rw [noChildren] at member
      exact absurd member List.not_mem_nil
  | group id logic children =>
      obtain ⟨_, changedLogic, rfl⟩ := Changes.group_of_applyTo_eq_ok applied
      cases asked : changes.children with
      | none =>
          rw [asked] at member
          exact absurd member List.not_mem_nil
      | some given =>
          rw [asked] at member
          exact member

/--
A tree with changed nodes, the first of which is valid, has only valid new conditions exactly when
the given members and what becomes of the other nodes are valid.
-/
theorem newOnesValid_iff_of_changedInto
    {types : Assoc ColumnType}
    {filter updated first changedFirst : FilterNode}
    {others changedOthers : List FilterNode}
    {changes : FilterNode.Changes}
    (applied : changes.applyTo first = .ok changedFirst)
    (changedInto : ChangedInto changes others changedOthers)
    (inTree : ∀ found ∈ first :: others, ∀ leaf ∈ found.conditions,
      leaf ∈ filter.conditions)
    (inUpdated : ∀ changed ∈ changedFirst :: changedOthers,
      ∀ leaf ∈ changed.conditions, leaf ∈ updated.conditions)
    (oldOrChanged : ∀ leaf ∈ updated.conditions,
      leaf ∈ filter.conditions ∨
        ∃ changed ∈ changedFirst :: changedOthers, leaf ∈ changed.conditions)
    (isValid : validateNode types (some changedFirst) = .ok ()) :
    NewOnesValid types filter updated.conditions ↔
      NewOnesValid types filter
        (conditionsAmong (changes.children.getD []) ++
          others.flatMap changes.changedLeaves) := by
  constructor
  · intro allValid leaf member isNew
    refine allValid leaf ?_ isNew
    rcases List.mem_append.mp member with given | ofOthers
    · exact inUpdated changedFirst List.mem_cons_self leaf
        (mem_conditions_of_mem_given applied given)
    · obtain ⟨other, isOther, isLeaf⟩ := List.mem_flatMap.mp ofOthers
      obtain ⟨changedOther, isChanged, appliedToOther⟩ :=
        changedInto.exists_changed isOther
      exact inUpdated changedOther (List.mem_cons_of_mem _ isChanged) leaf
        (mem_conditions_of_mem_changedLeaves appliedToOther isLeaf)
  · intro uncheckedValid leaf member isNew
    have givenValid (given : leaf ∈ conditionsAmong (changes.children.getD [])) :
        leaf.validate types = .ok () :=
      uncheckedValid leaf (List.mem_append_left _ given) isNew
    rcases oldOrChanged leaf member with old | ⟨changed, isChanged, inside⟩
    · exact absurd old isNew
    rcases List.mem_cons.mp isChanged with rfl | ofOthers
    · rcases mem_conditions_of_applyTo applied inside with
        old | isLeaf | given
      · exact absurd (inTree first List.mem_cons_self leaf old) isNew
      · cases first with
        | group id logic children =>
            exact absurd isLeaf List.not_mem_nil
        | condition old =>
            obtain ⟨_, rfl⟩ := Changes.applyTo_condition_eq_ok_iff.mp applied
            rw [List.mem_singleton.mp isLeaf]
            exact isValid
      · exact givenValid given
    · obtain ⟨found, isFound, appliedToFound⟩ :=
        changedInto.exists_of_mem ofOthers
      rcases mem_conditions_of_applyTo appliedToFound inside with
        old | isLeaf | given
      · exact absurd
          (inTree found (List.mem_cons_of_mem _ isFound) leaf old) isNew
      · exact uncheckedValid leaf
          (List.mem_append_right _
            (List.mem_flatMap.mpr ⟨found, isFound, isLeaf⟩))
          isNew
      · exact givenValid given

/-- A changed tree has only valid new conditions exactly when those that were not validated are. -/
theorem newOnesValid_of_changedFilter
    {types : Assoc ColumnType}
    {filter node changed : FilterNode}
    {id : String}
    {changes : FilterNode.Changes}
    (found : filter.find? id = some node)
    (changedTo : changedFilter types filter node id changes = .ok changed) :
    NewOnesValid types filter changed.conditions ↔
      NewOnesValid types filter
        ((Edit.updateNode id changes).unchecked types filter) := by
  obtain ⟨updated, performed, validated⟩ :=
    Outcome.bind_eq_ok_iff.mp changedTo
  obtain ⟨_, isValid, isChanged⟩ := Outcome.bind_eq_ok_iff.mp validated
  rw [← Outcome.pure_eq_ok_iff.mp isChanged]
  have updatedNodes :
      updateNodes id (completeChanges types node changes) filter =
        .ok updated := by
    rw [update] at performed
    split at performed
    · exact absurd performed nofun
    · exact performed
  have changedInto := outermost_updateNodes _ _ _ _ updatedNodes
  have oldOrChanged := conditions_updateNodes _ _ _ _ updatedNodes
  have inTree := conditions_outermost id filter
  have inUpdated := conditions_outermost id updated
  rw [find?_eq_head?_outermost] at found isValid
  rw [Edit.unchecked]
  generalize filter.outermost id = before at found changedInto inTree ⊢
  generalize updated.outermost id = after
    at isValid changedInto oldOrChanged inUpdated
  cases changedInto with
  | nil =>
      exact absurd found nofun
  | cons applied changedRest =>
      cases found
      dsimp only
      rw [← children_completeChanges types node changes]
      exact newOnesValid_iff_of_changedInto applied changedRest inTree inUpdated
        oldOrChanged isValid

/-! ## What edits have stored -/

theorem filter_eq_of_keeps
    {α : Type}
    {action : Action α}
    (keeps : action.Keeps)
    {session after : Session}
    {outcome : Outcome α}
    (performed : action.perform session = (outcome, after)) :
    after.workspace.filter = session.workspace.filter := by
  obtain ⟨cache, memo, same⟩ := keeps.same session
  rw [performed] at same
  rw [same]

/-- A node that has been added has been inserted in the filter tree. -/
theorem filter_of_addNode
    {parent : Option String}
    {node : FilterNode}
    {session after : Session}
    {id : String}
    (answered : (addNode parent node).perform session = (.ok id, after)) :
    ∃ group,
      after.workspace.filter =
        FilterNode.insert group node session.workspace.filter := by
  obtain ⟨workspace, middle, looked, answered⟩ :=
    exists_of_perform_bind_eq_ok answered
  cases looked
  obtain ⟨filter, middle, inserted, answered⟩ :=
    exists_of_perform_bind_eq_ok answered
  rw [perform_ofOutcome] at inserted
  obtain ⟨isInserted, rfl⟩ := Prod.mk.inj inserted
  cases answered
  rw [insertNode] at isInserted
  split at isInserted
  · exact ⟨_, (Except.ok.inj isInserted).symm⟩
  · exact absurd isInserted nofun

/-- A condition that has been added is valid for the types of the current view. -/
theorem exists_of_addCondition
    {settings : Settings}
    {parent field operator : Option String}
    {value : Cell}
    {session after : Session}
    {id : String}
    (answered :
      (addCondition settings parent field operator value).perform session =
        (.ok id, after)) :
    ∃ types condition group,
      ((currentTypes settings).perform session).1 = .ok types ∧
        condition.validate types = .ok () ∧
          after.workspace.filter =
            FilterNode.insert group (.condition condition)
              session.workspace.filter := by
  obtain ⟨condition, named, drawn, answered⟩ :=
    exists_of_perform_bind_eq_ok answered
  have isNamed :
      (Action.ofNaming (FilterNode.newCondition field operator value)).perform
          session =
        (.ok
            { id := drawnId session.supply.nodes, field, operator, value },
          session.withNodes (session.supply.nodes + 1)) :=
    perform_ofNaming_of_ok rfl
  rw [isNamed] at drawn
  obtain ⟨_, rfl⟩ := Prod.mk.inj drawn
  obtain ⟨types, typed, found, answered⟩ :=
    exists_of_perform_bind_eq_ok answered
  obtain ⟨_, validated, checked, answered⟩ :=
    exists_of_perform_bind_eq_ok answered
  rw [perform_ofOutcome] at checked
  obtain ⟨isValid, rfl⟩ := Prod.mk.inj checked
  have sameFilter := filter_eq_of_keeps (keeps_currentTypes settings) found
  rw [(keeps_currentTypes settings).ignoresNodes] at found
  obtain ⟨group, isInserted⟩ := filter_of_addNode answered
  rw [sameFilter] at isInserted
  exact
    ⟨types, condition, group, congrArg Prod.fst found, isValid, isInserted⟩

/-- A node that has been changed has been changed for the types of the current view. -/
theorem exists_of_updateNode
    {settings : Settings}
    {id : String}
    {changes : FilterNode.Changes}
    {session after : Session}
    (answered :
      (updateNode settings id changes).perform session = (.ok (), after)) :
    ∃ types node,
      ((currentTypes settings).perform session).1 = .ok types ∧
        session.workspace.filter.find? id = some node ∧
          changedFilter types session.workspace.filter node id changes =
            .ok after.workspace.filter := by
  obtain ⟨workspace, middle, looked, answered⟩ :=
    exists_of_perform_bind_eq_ok answered
  cases looked
  dsimp only at answered
  cases found : session.workspace.filter.find? id with
  | none =>
      rw [found] at answered
      exact absurd (congrArg Prod.fst answered) nofun
  | some node =>
      rw [found] at answered
      obtain ⟨types, typed, typesFound, answered⟩ :=
        exists_of_perform_bind_eq_ok answered
      obtain ⟨filter, changed, performed, answered⟩ :=
        exists_of_perform_bind_eq_ok answered
      rw [perform_ofOutcome] at performed
      obtain ⟨changedTo, rfl⟩ := Prod.mk.inj performed
      cases answered
      exact ⟨types, node, congrArg Prod.fst typesFound, rfl, changedTo⟩

/-- A filter tree that has been set is valid for the types of the current view. -/
theorem exists_of_setFilterTree
    {settings : Settings}
    {root : FilterNode}
    {session after : Session}
    (answered :
      (setFilterTree settings root).perform session = (.ok (), after)) :
    ∃ types,
      ((currentTypes settings).perform session).1 = .ok types ∧
        root.validate types = .ok () ∧ after.workspace.filter = root := by
  cases root with
  | condition leaf =>
      exact absurd (congrArg Prod.fst answered) nofun
  | group id logic children =>
      obtain ⟨types, typed, typesFound, answered⟩ :=
        exists_of_perform_bind_eq_ok answered
      obtain ⟨_, validated, checked, answered⟩ :=
        exists_of_perform_bind_eq_ok answered
      rw [perform_ofOutcome] at checked
      obtain ⟨isValid, rfl⟩ := Prod.mk.inj checked
      cases answered
      exact ⟨types, congrArg Prod.fst typesFound, isValid, rfl⟩

end Workspace

/-- When an image answers, it is the image of an answer. -/
theorem Action.exists_of_perform_map_eq_ok
    {α β : Type}
    {image : α → β}
    {action : Action α}
    {session : Session}
    {answer : β}
    (answered : ((image <$> action).perform session).1 = .ok answer) :
    ∃ value,
      action.perform session =
        (.ok value, ((image <$> action).perform session).2) := by
  rw [perform_map] at answered ⊢
  rcases performed : action.perform session with ⟨fault | value, after⟩
  · rw [performed] at answered
    exact absurd answered nofun
  · exact ⟨value, rfl⟩

/--
Whenever a condition is added, a node is changed or a filter tree is set, the conditions of the tree
afterwards that were not there before are all valid for the types of the current view exactly when
those of the edit's unchecked conditions are that were not there before: the conditions of members
given to a group, and what becomes of the nodes that share the identifier with the first one.
-/
theorem stored_conditions_valid_iff
    (settings : Settings)
    (session : Session)
    (edit : Edit)
    (isValidating : edit.IsValidating)
    (answer : Answer)
    (answered : session.answer settings (.edit edit) = .ok answer) :
    ∃ types,
      ((Workspace.currentTypes settings).perform session).1 = .ok types ∧
        (NewOnesValid types session.workspace.filter
            (session.after settings [.edit edit]).workspace.filter.conditions ↔
          NewOnesValid types session.workspace.filter
            (edit.unchecked types session.workspace.filter)) := by
  have isAfter :
      session.after settings [.edit edit] =
        ((edit.action settings).perform session).2 :=
    rfl
  rw [isAfter]
  cases edit with
  | addCondition parent field operator value =>
      obtain ⟨id, performed⟩ := Action.exists_of_perform_map_eq_ok answered
      obtain ⟨types, condition, group, typesFound, isValid, isInserted⟩ :=
        Workspace.exists_of_addCondition performed
      refine ⟨types, typesFound, iff_of_true ?_ ?_⟩
      · intro leaf member isNew
        rw [Edit.action, isInserted] at member
        rcases FilterNode.conditions_insert _ _ _ leaf member with old | added
        · exact absurd old isNew
        · rw [List.mem_singleton.mp added]
          exact isValid
      · exact fun leaf member => absurd member List.not_mem_nil
  | updateNode id changes =>
      obtain ⟨_, performed⟩ := Action.exists_of_perform_map_eq_ok answered
      obtain ⟨types, node, typesFound, found, changedTo⟩ :=
        Workspace.exists_of_updateNode performed
      exact
        ⟨types, typesFound,
          Workspace.newOnesValid_of_changedFilter found changedTo⟩
  | setFilterTree root =>
      obtain ⟨_, performed⟩ := Action.exists_of_perform_map_eq_ok answered
      obtain ⟨types, typesFound, isValid, isSet⟩ :=
        Workspace.exists_of_setFilterTree performed
      refine ⟨types, typesFound, iff_of_true ?_ ?_⟩
      · intro leaf member _
        rw [Edit.action, isSet] at member
        exact (root.validate_eq_ok_iff types).mp isValid leaf member
      · exact fun leaf member => absurd member List.not_mem_nil
  | loadTable | removeTable | setActiveTable | clear | setJoins | setAlias
  | addGroup | removeNode | setCaseSensitive | cleanColumn | removeDuplicates
  | fillEmpty =>
      exact isValidating.elim

/-- A condition that asks a column for the figure five. -/
def Condition.asksFive (field operator : String) : Condition where
  id := "c"
  field := some field
  operator := some operator
  value := .text "5"

namespace Session.Sample

/-- A session whose filter tree asks two columns under the same identifier. -/
def ledger : Session :=
  (start {} {}).after {}
    [.edit
      (.loadTable "ledger"
        [.ofList [("note", .text "a5"), ("amount", .int 5)],
          .ofList [("note", .text "b"), ("amount", .int 50)]]),
      .edit
        (.setFilterTree
          (.group "root" .all
            [.condition (.asksFive "note" "is"),
              .condition (.asksFive "amount" "=")]))]

/-- A change of the operator of the nodes with the identifier. -/
def askContains : Edit :=
  .updateNode "c" { operator := some (some "contains") }

/--
The change is accepted because the column of the first node offers the operator, and the column of
the second one, which does not, is asked with it too.
-/
theorem not_newOnesValid_of_askContains :
    (∃ answer, ledger.answer {} (.edit askContains) = .ok answer) ∧
      ∃ types,
        ((Workspace.currentTypes {}).perform ledger).1 = .ok types ∧
          ¬ NewOnesValid types ledger.workspace.filter
            (ledger.after {} [.edit askContains]).workspace.filter.conditions := by
  have accepted :
      ∃ answer, ledger.answer {} (.edit askContains) = .ok answer :=
    Outcome.fault?_eq_none_iff.mp (by decide +kernel)
  refine ⟨accepted, ?_⟩
  obtain ⟨answer, answered⟩ := accepted
  obtain ⟨types, typesFound, validIff⟩ :=
    stored_conditions_valid_iff {} ledger askContains trivial answer
      answered
  have columnTypes :
      ((Workspace.currentTypes {}).perform ledger).1 =
        .ok (.ofList [("note", .string), ("amount", .number)]) := by
    decide +kernel
  refine ⟨types, typesFound, fun allValid => ?_⟩
  rw [columnTypes] at typesFound
  cases typesFound
  have isValid :=
    validIff.mp allValid (.asksFive "amount" "contains") (by decide +kernel)
      (by decide +kernel)
  exact absurd isValid (by decide +kernel)

end Session.Sample

end Tabular
