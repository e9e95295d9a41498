import Tabular.Proofs.Filter.Conditions
import Tabular.Proofs.Filter.Places

namespace Tabular

/-!
# What edits do to the outline

In a tree whose identifiers are distinct an edit touches the lines that it addresses and no others:
adding a node puts its lines behind those of the group, removing one takes its lines out, and
changing one rewrites its line. Afterwards every node is found at its place.

One law holds of any tree, also when nodes are named alike: a node that is added under a name of its
own can be taken out again, which leaves the tree as it was.
-/

/-- A logic is told by its name. -/
theorem Logic.ofCell_eq_ok_iff
    {value : Cell}
    {logic : Logic} :
    Logic.ofCell value = .ok logic ↔ value = .text logic.name := by
  constructor
  · intro isNamed
    rw [ofCell] at isNamed
    split at isNamed
    · next found isFound =>
        cases isNamed
        rw [ofCell?.eq_def] at isFound
        split at isFound <;> cases isFound <;> rfl
    · cases isNamed
  · rintro rfl
    cases logic <;> rfl

namespace FilterNode

open Place

/-! ## Blocks of trees with distinct identifiers -/

variable {place : Place} {id : String}
variable {tree : FilterNode} {before below after : List Line} {line : Line}

/-- Every identifier of a tree is that of a line. -/
theorem exists_block_of_mem_ids
    (known : id ∈ tree.ids) :
    ∃ before below after line, Block tree.outline before line below after ∧ line.id = id := by
  rw [← map_id_outlineFrom 0] at known
  obtain ⟨line, member, named⟩ := List.mem_map.mp known
  obtain ⟨before, below, after, block⟩ := exists_block_of_mem member
  exact ⟨before, below, after, line, block, named⟩

theorem Block.ids_eq
    (block : Block tree.outline before line below after) :
    tree.ids =
      before.map Line.id ++ line.id :: (below.map Line.id ++ after.map Line.id) := by
  have split : tree.outlineFrom 0 = before ++ line :: (below ++ after) := block.split
  rw [← map_id_outlineFrom 0, split, List.map_append, List.map_cons, List.map_append]

theorem Block.IsAt.depth_and_id
    {node : FilterNode}
    (isAt : Block.IsAt tree before line below after place node) :
    place.length = line.depth ∧ node.id = line.id := by
  obtain ⟨label, rest, startsWith, sameId⟩ := exists_outlineFrom_eq_cons place.length node
  obtain ⟨rfl, -⟩ := List.cons.inj (startsWith.symm.trans isAt.lines_eq)
  exact ⟨rfl, sameId.symm⟩

theorem Block.IsAt.lacks
    {node : FilterNode}
    (isAt : Block.IsAt tree before line below after place node)
    (distinct : tree.ids.Nodup) :
    place.Lacks line.id := by
  rw [← isAt.fill_eq] at distinct
  exact lacks_of_distinct distinct (isAt.depth_and_id.2 ▸ node.id_mem_ids)

/-- The node at a place is found when no line before the place has its identifier. -/
theorem Block.IsAt.find?_eq_some
    {node : FilterNode}
    (isAt : Block.IsAt tree before line below after place node)
    (absent : line.id ∉ before.map Line.id) :
    tree.find? line.id = some node := by
  rw [← isAt.fill_eq]
  refine find?_fill (by rwa [isAt.before_eq]) ?_
  rw [find?_eq_head?_outermost, outermost_of_id_eq isAt.depth_and_id.2]
  rfl

/-- The outline of a tree with another node at the place. -/
theorem Block.IsAt.outline_fill
    {node : FilterNode}
    (isAt : Block.IsAt tree before line below after place node)
    (other : FilterNode) :
    (fill place other).outline = before ++ (other.outlineFrom line.depth ++ after) := by
  rw [FilterNode.outline_fill, isAt.before_eq, isAt.after_eq, isAt.depth_and_id.1]

/-! ## What a tree shows -/

/--
The tree has the outline. A search finds the node at the first line that has the identifier, with
what is below it, and finds nothing when there is no such line.
-/
structure Shows (tree : FilterNode) (lines : List Line) : Prop where
  outline_eq : tree.outline = lines
  finds : ∀ {before below after : List Line} {line : Line},
    Block lines before line below after → line.id ∉ before.map Line.id →
      ∃ node, tree.find? line.id = some node ∧ node.outlineFrom line.depth = line :: below
  misses : ∀ {id : String}, id ∉ lines.map Line.id → tree.find? id = none

theorem shows_outline
    (tree : FilterNode) :
    tree.Shows tree.outline where
  outline_eq := rfl
  finds := by
    intro before below after line block absent
    obtain ⟨place, node, isAt⟩ := block.exists_isAt
    exact ⟨node, isAt.find?_eq_some absent, isAt.depth_and_id.1 ▸ isAt.lines_eq⟩
  misses := by
    intro id absent
    rw [map_id_outlineFrom] at absent
    exact find?_of_notMem tree absent

theorem shows_of_outline_eq
    {lines : List Line}
    (same : tree.outline = lines) :
    tree.Shows lines :=
  same ▸ tree.shows_outline

/-! ## Adding nodes -/

/-- What adding a node does to a tree. -/
structure AddsBelow (tree : FilterNode) : Prop where
  /-- The added node comes right behind everything below the group, as a member of it. -/
  splices : ∀ {before below after : List Line} {line : Line} {parent : String} {logic : Logic},
    Block tree.outline before line below after → line.label = .group parent logic →
      ∀ added : FilterNode,
        (insert parent added tree).Shows
          (before ++ line :: (below ++ (added.outlineFrom (line.depth + 1) ++ after)))
  /-- Under an unknown name or that of a condition nothing is added. -/
  ignores : ∀ {parent : String}, HasNoGroup parent tree.outline →
    ∀ added : FilterNode, insert parent added tree = tree
  /-- Fresh identifiers stay distinct. -/
  distinct : ∀ (parent : String) {added : FilterNode},
    added.ids.Nodup → (∀ id ∈ added.ids, id ∉ tree.ids) → (insert parent added tree).ids.Nodup

theorem outline_insert
    (distinct : tree.ids.Nodup)
    (block : Block tree.outline before line below after)
    {parent : String}
    {logic : Logic}
    (isGroup : line.label = .group parent logic)
    (added : FilterNode) :
    (insert parent added tree).outline =
      before ++ line :: (below ++ (added.outlineFrom (line.depth + 1) ++ after)) := by
  obtain ⟨place, node, isAt⟩ := block.exists_isAt
  have named : line.id = parent := by
    rw [Line.id, isGroup, Label.id]
  have lacks : place.Lacks parent := named ▸ isAt.lacks distinct
  have lines := isAt.lines_eq
  rw [← isAt.fill_eq, insert_fill lacks, isAt.outline_fill]
  cases node with
  | condition leaf =>
      obtain ⟨rfl, -⟩ := List.cons.inj lines
      cases isGroup
  | group id ownLogic children =>
      obtain ⟨rfl, rfl⟩ := List.cons.inj lines
      cases isGroup
      rw [insert, if_pos rfl, outlineFrom, outlineAmong_append]
      simp [outlineAmong]

theorem addsBelow
    (distinct : tree.ids.Nodup) :
    tree.AddsBelow where
  splices block isGroup added :=
    shows_of_outline_eq (outline_insert distinct block isGroup added)
  ignores noGroup added :=
    insert_eq_self added 0 tree noGroup
  distinct := by
    intro parent added addedDistinct fresh
    by_cases noGroup : HasNoGroup parent tree.outline
    · rwa [insert_eq_self added 0 tree noGroup]
    · simp only [HasNoGroup, not_forall, not_not] at noGroup
      obtain ⟨line, member, logic, isGroup⟩ := noGroup
      obtain ⟨before, below, after, block⟩ := exists_block_of_mem member
      have perm :
          (insert parent added tree).ids.Perm (added.ids ++ tree.ids) := by
        rw [← map_id_outlineFrom 0 (insert parent added tree)]
        have outlined := outline_insert distinct block isGroup added
        rw [outline] at outlined
        rw [outlined, block.ids_eq]
        simpa [map_id_outlineFrom] using
          List.perm_append_comm_assoc (before.map Line.id ++ line.id :: below.map Line.id)
            added.ids (after.map Line.id)
      rw [perm.nodup_iff, List.nodup_append']
      exact ⟨addedDistinct, distinct, fun _ isAdded isOld => fresh _ isAdded isOld⟩

/-! ## Removing nodes -/

/-- What removing a node does to a tree. -/
structure RemovesBlock (tree : FilterNode) : Prop where
  /-- The line of a node other than the root is taken out, with everything below it. -/
  cuts : ∀ {before below after : List Line} {line : Line},
    Block tree.outline before line below after → before ≠ [] →
      (remove line.id tree).Shows (before ++ after)
  /-- The root stays, with everything below it. -/
  keepsRoot : remove tree.id tree = tree
  /-- Of an unknown name nothing is removed. -/
  ignores : ∀ {id : String}, id ∉ tree.ids → remove id tree = tree
  distinct : ∀ id : String, (remove id tree).ids.Nodup

theorem outline_remove
    (distinct : tree.ids.Nodup)
    (block : Block tree.outline before line below after)
    (notRoot : before ≠ []) :
    (remove line.id tree).outline = before ++ after := by
  obtain ⟨place, node, isAt⟩ := block.exists_isAt
  have lacks := isAt.lacks distinct
  have beforeIs := isAt.before_eq
  have afterIs := isAt.after_eq
  rw [← isAt.fill_eq]
  cases place with
  | nil =>
      exact absurd beforeIs.symm notRoot
  | cons frame outer =>
      rw [remove_fill_of_id_eq lacks isAt.depth_and_id.2, FilterNode.outline_fill,
        ← beforeIs, ← afterIs, linesBefore, linesAfter]
      simp [outlineFrom]

theorem remove_own_id
    (distinct : tree.ids.Nodup) :
    remove tree.id tree = tree := by
  cases tree with
  | condition leaf =>
      rfl
  | group id logic children =>
      rw [ids, List.nodup_cons] at distinct
      rw [remove, FilterNode.id, removeAmong_of_notMem children distinct.1]

mutual

/-- Removing nodes leaves the other identifiers in their order. -/
theorem ids_remove_sublist
    (unwanted : String) :
    ∀ node : FilterNode, (remove unwanted node).ids.Sublist node.ids
  | .condition _ => .refl _
  | .group id _ children => (idsAmong_removeAmong_sublist unwanted children).cons_cons id

theorem idsAmong_removeAmong_sublist
    (unwanted : String) :
    ∀ nodes : List FilterNode, (idsAmong (removeAmong unwanted nodes)).Sublist (idsAmong nodes)
  | [] => .slnil
  | child :: rest => by
      have restIsSublist := idsAmong_removeAmong_sublist unwanted rest
      rw [removeAmong, idsAmong]
      split
      · exact restIsSublist.trans (List.sublist_append_right _ _)
      · exact (ids_remove_sublist unwanted child).append restIsSublist

end

theorem removesBlock
    (distinct : tree.ids.Nodup) :
    tree.RemovesBlock where
  cuts block notRoot :=
    shows_of_outline_eq (outline_remove distinct block notRoot)
  keepsRoot :=
    remove_own_id distinct
  ignores absent :=
    remove_of_notMem tree absent
  distinct id :=
    distinct.sublist (ids_remove_sublist id tree)

/-! ## Changing nodes -/

/-- The changes make the other label of a label; they have no parts that its node does not have. -/
inductive Changes.Turns (changes : Changes) : Label → Label → Prop
  | condition
      {leaf : Condition}
      (noLogic : changes.logic = none)
      (noOthers : changes.unknown = []) :
      Turns changes (.condition leaf) (.condition (changes.ofCondition leaf))
  | group
      {id : String}
      {logic newLogic : Logic}
      (noField : changes.field = none)
      (noOperator : changes.operator = none)
      (noValue : changes.value = none)
      (noOthers : changes.unknown = [])
      (named :
        changes.logic = none ∧ newLogic = logic ∨
          changes.logic = some (.text newLogic.name)) :
      Turns changes (.group id logic) (.group id newLogic)

theorem Changes.Turns.id_eq
    {changes : Changes}
    {label other : Label}
    (turns : changes.Turns label other) :
    other.id = label.id := by
  cases turns <;>
    rfl

/-- What changing a node does to a tree, unless the changes give a group other members. -/
structure RewritesLine (tree : FilterNode) : Prop where
  /-- A change is made when the node has the changed parts, and then it rewrites the line. -/
  rewrites : ∀ {before below after : List Line} {line : Line},
    Block tree.outline before line below after →
      ∀ {changes : Changes}, changes.id = none → changes.children = none →
        ∀ changed : FilterNode,
          update line.id changes tree = .ok changed ↔
            ∃ label, changes.Turns line.label label ∧
              changed.Shows (before ++ { line with label } :: (below ++ after))
  /-- Identifiers cannot be changed. -/
  refuses : ∀ (id : String) {changes : Changes} {newId : Cell}, changes.id = some newId →
    update id changes tree = .error (.filter (.changedId newId))
  /-- Of an unknown name nothing is changed. -/
  ignores : ∀ {id : String} {changes : Changes}, id ∉ tree.ids → changes.id = none →
    update id changes tree = .ok tree
  distinct : ∀ {id : String} {changes : Changes} {changed : FilterNode},
    changes.children = none → update id changes tree = .ok changed → changed.ids.Nodup

/-- A changed group has the members that it had, unless others were asked for. -/
theorem Changes.applyTo_group_eq_ok_iff
    {changes : Changes}
    (noChildren : changes.children = none)
    {id : String}
    {logic : Logic}
    {children : List FilterNode}
    {changed : FilterNode} :
    changes.applyTo (.group id logic children) = .ok changed ↔
      ∃ newLogic,
        changes.Turns (.group id logic) (.group id newLogic) ∧
          changed = .group id newLogic children := by
  constructor
  · intro applied
    obtain ⟨⟨noField, noOperator, noValue⟩, -⟩ := group_of_applyTo_eq_ok applied
    rw [applyTo, applyToGroup, Outcome.bind_eq_ok_iff] at applied
    obtain ⟨_, accepted, grouped⟩ := applied
    rw [refuse_eq_ok_iff, List.append_eq_nil_iff] at accepted
    rw [noChildren] at grouped
    cases asked : changes.logic with
    | none =>
        rw [asked] at grouped
        exact
          ⟨logic, .group noField noOperator noValue accepted.2 (.inl ⟨asked, rfl⟩),
            (Except.ok.inj grouped).symm⟩
    | some value =>
        rw [asked] at grouped
        obtain ⟨newLogic, named, same⟩ := Outcome.bind_eq_ok_iff.mp grouped
        rw [Logic.ofCell_eq_ok_iff] at named
        exact
          ⟨newLogic, .group noField noOperator noValue accepted.2 (.inr (named ▸ asked)),
            (Except.ok.inj same).symm⟩
  · rintro ⟨newLogic, ⟨⟩ | ⟨noField, noOperator, noValue, noOthers, named⟩, rfl⟩
    have accepted : refuse true (changes.conditionNames ++ changes.unknown) = .ok () := by
      simp [refuse_eq_ok_iff, conditionNames, named_eq_nil_iff, noField, noOperator, noValue,
        noOthers]
    rw [applyTo, applyToGroup, accepted, noChildren]
    rcases named with ⟨asked, rfl⟩ | asked
    · rw [asked]
      rfl
    · rw [asked]
      cases newLogic <;> rfl

/-- A change that is made rewrites the line of the node and leaves the lines below it. -/
theorem Changes.exists_turns_of_applyTo_eq_ok
    {changes : Changes}
    (noChildren : changes.children = none)
    {depth : Nat}
    {node changed : FilterNode}
    (lines : node.outlineFrom depth = line :: below)
    (applied : changes.applyTo node = .ok changed) :
    ∃ label, changes.Turns line.label label ∧
      changed.outlineFrom depth = { line with label } :: below := by
  cases node with
  | condition leaf =>
      obtain ⟨rfl, rfl⟩ := List.cons.inj lines
      obtain ⟨⟨noLogic, -, noOthers⟩, rfl⟩ := applyTo_condition_eq_ok_iff.mp applied
      exact ⟨_, .condition noLogic noOthers, rfl⟩
  | group id logic children =>
      obtain ⟨rfl, rfl⟩ := List.cons.inj lines
      obtain ⟨newLogic, turns, rfl⟩ := (applyTo_group_eq_ok_iff noChildren).mp applied
      exact ⟨_, turns, rfl⟩

/-- A change is made when it turns the label of the node into another one. -/
theorem Changes.Turns.exists_applyTo_eq_ok
    {changes : Changes}
    {label : Label}
    (turns : changes.Turns line.label label)
    (noChildren : changes.children = none)
    {depth : Nat}
    {node : FilterNode}
    (lines : node.outlineFrom depth = line :: below) :
    ∃ changed, changes.applyTo node = .ok changed ∧
      changed.outlineFrom depth = { line with label } :: below := by
  cases node with
  | condition leaf =>
      obtain ⟨rfl, rfl⟩ := List.cons.inj lines
      cases turns with
      | condition noLogic noOthers =>
          exact
            ⟨_, applyTo_condition_eq_ok_iff.mpr ⟨⟨noLogic, noChildren, noOthers⟩, rfl⟩, rfl⟩
  | group id logic children =>
      obtain ⟨rfl, rfl⟩ := List.cons.inj lines
      obtain ⟨newLogic, rfl⟩ : ∃ newLogic, label = .group id newLogic := by
        cases turns
        exact ⟨_, rfl⟩
      exact ⟨_, (applyTo_group_eq_ok_iff noChildren).mpr ⟨newLogic, turns, rfl⟩, rfl⟩

theorem update_eq_ok_iff
    (distinct : tree.ids.Nodup)
    (block : Block tree.outline before line below after)
    {changes : Changes}
    (noId : changes.id = none)
    (noChildren : changes.children = none)
    {changed : FilterNode} :
    update line.id changes tree = .ok changed ↔
      ∃ label, changes.Turns line.label label ∧
        changed.outline = before ++ { line with label } :: (below ++ after) := by
  obtain ⟨place, node, isAt⟩ := block.exists_isAt
  obtain ⟨sameDepth, sameId⟩ := isAt.depth_and_id
  have lines : node.outlineFrom line.depth = line :: below := sameDepth ▸ isAt.lines_eq
  have performed :
      update line.id changes tree = (changes.applyTo node).map (fill place) := by
    rw [update, noId, ← isAt.fill_eq]
    dsimp only
    rw [updateNodes_fill (isAt.lacks distinct), updateNodes_of_id_eq changes sameId]
  have outline_of_rewritten {other : FilterNode} {label : Label}
      (rewritten : other.outlineFrom line.depth = { line with label } :: below) :
      (fill place other).outline = before ++ { line with label } :: (below ++ after) := by
    rw [isAt.outline_fill, rewritten, List.cons_append]
  rw [performed]
  constructor
  · intro changedTo
    cases applied : changes.applyTo node with
    | error fault =>
        rw [applied] at changedTo
        cases changedTo
    | ok other =>
        rw [applied] at changedTo
        cases changedTo
        obtain ⟨label, turns, rewritten⟩ :=
          Changes.exists_turns_of_applyTo_eq_ok noChildren lines applied
        exact ⟨label, turns, outline_of_rewritten rewritten⟩
  · rintro ⟨label, turns, outlined⟩
    obtain ⟨other, applied, rewritten⟩ := turns.exists_applyTo_eq_ok noChildren lines
    have same : fill place other = changed :=
      outlineFrom_injective 0 ((outline_of_rewritten rewritten).trans outlined.symm)
    rw [applied, ← same]
    rfl

/-- A change that is made keeps the identifiers. -/
theorem ids_of_update_eq_ok
    (distinct : tree.ids.Nodup)
    {changes : Changes}
    (noChildren : changes.children = none)
    {changed : FilterNode}
    (performed : update id changes tree = .ok changed) :
    changed.ids = tree.ids := by
  have noId : changes.id = none := by
    cases asked : changes.id with
    | none =>
        rfl
    | some newId =>
        rw [update, asked] at performed
        cases performed
  by_cases known : id ∈ tree.ids
  · obtain ⟨before, below, after, line, block, rfl⟩ := exists_block_of_mem_ids known
    obtain ⟨label, turns, outlined⟩ :=
      (update_eq_ok_iff distinct block noId noChildren).mp performed
    have sameId : Line.id { line with label } = line.id := turns.id_eq
    rw [block.ids_eq, ← map_id_outlineFrom 0 changed, show changed.outlineFrom 0 = _ from outlined,
      List.map_append, List.map_cons, List.map_append, sameId]
  · rw [update, noId] at performed
    cases (updateNodes_of_notMem changes tree known).symm.trans performed
    rfl

theorem rewritesLine
    (distinct : tree.ids.Nodup) :
    tree.RewritesLine where
  rewrites := by
    intro before below after line block changes noId noChildren changed
    rw [update_eq_ok_iff distinct block noId noChildren]
    exact exists_congr fun label =>
      and_congr_right' ⟨shows_of_outline_eq, fun shows => shows.outline_eq⟩
  refuses id changes newId asked := by
    rw [update, asked]
  ignores absent noId := by
    rw [update, noId]
    exact updateNodes_of_notMem _ tree absent
  distinct := by
    intro id changes changed noChildren performed
    rwa [ids_of_update_eq_ok distinct noChildren performed]

/--
In a tree whose identifiers are distinct every edit changes what it addresses and nothing else, and
afterwards every node is found at its place.
-/
theorem edits_change_what_they_address
    (tree : FilterNode)
    (distinct : tree.ids.Nodup) :
    tree.Shows tree.outline ∧ tree.AddsBelow ∧ tree.RemovesBlock ∧ tree.RewritesLine :=
  ⟨tree.shows_outline, addsBelow distinct, removesBlock distinct, rewritesLine distinct⟩

namespace Sample

/-- A condition on the state of an order. -/
def hasState (state : String) : FilterNode :=
  .condition { id := state, field := some "state", value := .text state }

/-- Orders of one city in one of two states. -/
def orders : FilterNode :=
  .group "root" .all
    [.condition { id := "city", field := some "city", value := .text "Oslo" },
      .group "states" .any [hasState "paid", hasState "sent"]]

/-- A third state comes behind the other two, and a state that is taken out leaves the rest. -/
theorem edits_of_orders :
    orders.ids.Nodup ∧
      (insert "states" (hasState "lost") orders).Shows
        (orders.outline ++ (hasState "lost").outlineFrom 2) ∧
      (remove "sent" orders).Shows (orders.outline.take 4) := by
  have distinct : orders.ids.Nodup := by decide
  obtain ⟨-, adds, removes, -⟩ := edits_change_what_they_address orders distinct
  have states : Block orders.outline (orders.outline.take 2) ⟨1, .group "states" .any⟩
      (orders.outline.drop 3) [] :=
    ⟨rfl, by decide, by decide⟩
  have sent : Block orders.outline (orders.outline.take 4)
      ⟨2, .condition { id := "sent", field := some "state", value := .text "sent" }⟩ [] [] :=
    ⟨rfl, by decide, by decide⟩
  exact ⟨distinct, adds.splices states rfl (hasState "lost"), removes.cuts sent (by decide)⟩

end Sample

/-! ## Taking out what was added -/

theorem id_insert
    (parent : String)
    (added node : FilterNode) :
    (insert parent added node).id = node.id := by
  cases node with
  | condition leaf =>
      rfl
  | group id logic children =>
      rw [insert]
      split <;> rfl

mutual

theorem remove_insert_of_notMem
    (parent : String)
    {added : FilterNode} :
    ∀ node : FilterNode, added.id ∉ node.ids → remove added.id (insert parent added node) = node
  | .condition _, _ => rfl
  | .group id logic children, fresh => by
      rw [ids, List.mem_cons, not_or] at fresh
      rw [insert]
      split
      · rw [remove, removeAmong_append, removeAmong_of_notMem children fresh.2, removeAmong,
          if_pos rfl, removeAmong, List.append_nil]
      · rw [remove, removeAmong_insertAmong_of_notMem parent children fresh.2]

theorem removeAmong_insertAmong_of_notMem
    (parent : String)
    {added : FilterNode} :
    ∀ nodes : List FilterNode, added.id ∉ idsAmong nodes →
      removeAmong added.id (insertAmong parent added nodes) = nodes
  | [], _ => rfl
  | child :: rest, fresh => by
      rw [idsAmong, List.mem_append, not_or] at fresh
      have other : (insert parent added child).id ≠ added.id := by
        rw [id_insert]
        intro same
        exact fresh.1 (same ▸ child.id_mem_ids)
      rw [insertAmong, removeAmong, if_neg other, remove_insert_of_notMem parent child fresh.1,
        removeAmong_insertAmong_of_notMem parent rest fresh.2]

end

/--
Whatever tree a node is added to, and wherever, removing it again leaves the tree as it was, as long
as no other node has its identifier.
-/
theorem removal_undoes_addition
    (tree : FilterNode)
    (parent : String)
    {added : FilterNode}
    (fresh : added.id ∉ tree.ids) :
    remove added.id (insert parent added tree) = tree :=
  remove_insert_of_notMem parent tree fresh

namespace Sample

/-- Groups that are all named alike, one inside of another. -/
def nested : FilterNode :=
  .group "root" .all
    [.group "states" .any [hasState "paid", .group "states" .all []], .group "states" .all []]

/-- The state is added to the two outer groups, and taken out of both of them. -/
theorem removal_undoes_addition_to_nested :
    (hasState "lost").id ∉ nested.ids ∧
      (insert "states" (hasState "lost") nested).ids =
        ["root", "states", "paid", "states", "lost", "states", "lost"] ∧
      remove "lost" (insert "states" (hasState "lost") nested) = nested :=
  have fresh : (hasState "lost").id ∉ nested.ids := by decide
  ⟨fresh, rfl, removal_undoes_addition nested "states" fresh⟩

end Sample

end FilterNode

end Tabular
