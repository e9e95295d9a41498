import Tabular.Proofs.Filter.Outline

namespace Tabular.FilterNode

/-!
# Edits along a place

Looking up a node and the three edits of a filter tree go down the tree the same way. When no node
around a place has the identifier, they pass everything around the place by and come to the node
there, so the tree around it stays as it is. In a tree with distinct identifiers this is so at the
place of every node.
-/

open Place

/-! ## Trees that an edit does not concern -/

/-- No line is that of a group with the identifier. -/
abbrev HasNoGroup (id : String) (lines : List Line) : Prop :=
  ∀ line ∈ lines, ∀ logic, line.label ≠ .group id logic

mutual

/-- Without a group of the name nothing is added. -/
theorem insert_eq_self
    {parent : String}
    (added : FilterNode)
    (depth : Nat) :
    ∀ node : FilterNode, HasNoGroup parent (node.outlineFrom depth) →
      insert parent added node = node
  | .condition _, _ => rfl
  | .group id logic children, noGroup => by
      have other : id ≠ parent := by
        rintro rfl
        exact noGroup _ List.mem_cons_self logic rfl
      rw [insert, if_neg other,
        insertAmong_eq_self added (depth + 1) children
          fun line member => noGroup line (List.mem_cons_of_mem _ member)]

theorem insertAmong_eq_self
    {parent : String}
    (added : FilterNode)
    (depth : Nat) :
    ∀ nodes : List FilterNode, HasNoGroup parent (outlineAmong depth nodes) →
      insertAmong parent added nodes = nodes
  | [], _ => rfl
  | child :: rest, noGroup => by
      rw [insertAmong,
        insert_eq_self added depth child
          fun line member => noGroup line (List.mem_append_left _ member),
        insertAmong_eq_self added depth rest
          fun line member => noGroup line (List.mem_append_right _ member)]

end

/-- A group with the identifier has a line with it. -/
theorem hasNoGroup_of_notMem
    {id : String}
    {lines : List Line}
    (absent : id ∉ lines.map Line.id) :
    HasNoGroup id lines := by
  intro line member logic isGroup
  refine absent (List.mem_map.mpr ⟨line, member, ?_⟩)
  rw [Line.id, isGroup, Label.id]

theorem insertAmong_of_notMem
    {parent : String}
    (added : FilterNode)
    {nodes : List FilterNode}
    (absent : parent ∉ idsAmong nodes) :
    insertAmong parent added nodes = nodes :=
  insertAmong_eq_self added 0 nodes
    (hasNoGroup_of_notMem (by rwa [map_id_outlineAmong]))

mutual

/-- Without a node of the name nothing is removed. -/
theorem remove_of_notMem
    {unwanted : String} :
    ∀ node : FilterNode, unwanted ∉ node.ids → remove unwanted node = node
  | .condition _, _ => rfl
  | .group id logic children, absent => by
      rw [ids, List.mem_cons, not_or] at absent
      rw [remove, removeAmong_of_notMem children absent.2]

theorem removeAmong_of_notMem
    {unwanted : String} :
    ∀ nodes : List FilterNode, unwanted ∉ idsAmong nodes → removeAmong unwanted nodes = nodes
  | [], _ => rfl
  | child :: rest, absent => by
      rw [idsAmong, List.mem_append, not_or] at absent
      have other : child.id ≠ unwanted := by
        rintro rfl
        exact absent.1 child.id_mem_ids
      rw [removeAmong, if_neg other, remove_of_notMem child absent.1,
        removeAmong_of_notMem rest absent.2]

end

mutual

/-- Without a node of the name nothing is changed. -/
theorem updateNodes_of_notMem
    {wanted : String}
    (changes : Changes) :
    ∀ node : FilterNode, wanted ∉ node.ids → updateNodes wanted changes node = .ok node
  | .condition leaf, absent => by
      rw [ids, List.mem_singleton] at absent
      exact if_neg (Ne.symm absent)
  | .group id logic children, absent => by
      rw [ids, List.mem_cons, not_or] at absent
      rw [updateNodes, if_neg (Ne.symm absent.1), updateAmong_of_notMem changes children absent.2]
      rfl

theorem updateAmong_of_notMem
    {wanted : String}
    (changes : Changes) :
    ∀ nodes : List FilterNode, wanted ∉ idsAmong nodes →
      updateAmong wanted changes nodes = .ok nodes
  | [], _ => rfl
  | child :: rest, absent => by
      rw [idsAmong, List.mem_append, not_or] at absent
      rw [updateAmong, updateNodes_of_notMem changes child absent.1,
        updateAmong_of_notMem changes rest absent.2]
      rfl

end

mutual

/-- Without a node of the name none is found. -/
theorem find?_of_notMem
    {wanted : String} :
    ∀ node : FilterNode, wanted ∉ node.ids → node.find? wanted = none
  | .condition leaf, absent => by
      rw [ids, List.mem_singleton] at absent
      exact if_neg (Ne.symm absent)
  | .group id logic children, absent => by
      rw [ids, List.mem_cons, not_or] at absent
      rw [find?, if_neg (Ne.symm absent.1), findAmong?_of_notMem children absent.2]

theorem findAmong?_of_notMem
    {wanted : String} :
    ∀ nodes : List FilterNode, wanted ∉ idsAmong nodes → findAmong? wanted nodes = none
  | [], _ => rfl
  | child :: rest, absent => by
      rw [idsAmong, List.mem_append, not_or] at absent
      rw [findAmong?, find?_of_notMem child absent.1, findAmong?_of_notMem rest absent.2]

end

/-! ## Going through members -/

theorem insertAmong_append
    (parent : String)
    (added : FilterNode)
    (first second : List FilterNode) :
    insertAmong parent added (first ++ second) =
      insertAmong parent added first ++ insertAmong parent added second := by
  induction first with
  | nil =>
      rfl
  | cons child rest inductionHypothesis =>
      rw [List.cons_append, insertAmong, insertAmong, inductionHypothesis, List.cons_append]

theorem removeAmong_append
    (unwanted : String)
    (first second : List FilterNode) :
    removeAmong unwanted (first ++ second) =
      removeAmong unwanted first ++ removeAmong unwanted second := by
  induction first with
  | nil =>
      rfl
  | cons child rest inductionHypothesis =>
      rw [List.cons_append, removeAmong, removeAmong, inductionHypothesis]
      split
      · rfl
      · rw [List.cons_append]

/-- Members before the one of the name are passed over in a change, as are those after it. -/
theorem updateAmong_around
    {wanted : String}
    (changes : Changes)
    {left right : List FilterNode}
    (node : FilterNode)
    (notLeft : wanted ∉ idsAmong left)
    (notRight : wanted ∉ idsAmong right) :
    updateAmong wanted changes (left ++ node :: right) =
      (updateNodes wanted changes node).map fun updated => left ++ updated :: right := by
  induction left with
  | nil =>
      rw [List.nil_append, updateAmong, updateAmong_of_notMem changes right notRight]
      cases updateNodes wanted changes node <;> rfl
  | cons child rest inductionHypothesis =>
      rw [idsAmong, List.mem_append, not_or] at notLeft
      rw [List.cons_append, updateAmong, updateNodes_of_notMem changes child notLeft.1,
        inductionHypothesis notLeft.2]
      cases updateNodes wanted changes node <;> rfl

/-- Members before the one of the name are passed over in a search. -/
theorem findAmong?_around
    {wanted : String}
    {left right : List FilterNode}
    {node found : FilterNode}
    (notLeft : wanted ∉ idsAmong left)
    (inside : node.find? wanted = some found) :
    findAmong? wanted (left ++ node :: right) = some found := by
  induction left with
  | nil =>
      rw [List.nil_append, findAmong?, inside]
  | cons child rest inductionHypothesis =>
      rw [idsAmong, List.mem_append, not_or] at notLeft
      rw [List.cons_append, findAmong?, find?_of_notMem child notLeft.1]
      exact inductionHypothesis notLeft.2

/-! ## Going down to a place -/

/-- No node around the place has the identifier. -/
structure Place.Lacks (place : Place) (id : String) : Prop where
  before : id ∉ (linesBefore place).map Line.id
  after : id ∉ (linesAfter place).map Line.id

theorem Place.notMem_linesBefore_cons_iff
    {id : String}
    {frame : Frame}
    {outer : Place} :
    id ∉ (linesBefore (frame :: outer)).map Line.id ↔
      id ∉ (linesBefore outer).map Line.id ∧ frame.id ≠ id ∧ id ∉ idsAmong frame.left := by
  rw [linesBefore, List.map_append, List.map_cons, map_id_outlineAmong, List.mem_append,
    List.mem_cons, not_or, not_or]
  exact and_congr_right' (and_congr_left' ⟨Ne.symm, Ne.symm⟩)

theorem Place.lacks_cons_iff
    {id : String}
    {frame : Frame}
    {outer : Place} :
    Lacks (frame :: outer) id ↔
      Lacks outer id ∧ frame.id ≠ id ∧ id ∉ idsAmong frame.left ∧ id ∉ idsAmong frame.right := by
  have after_iff :
      id ∉ (linesAfter (frame :: outer)).map Line.id ↔
        id ∉ idsAmong frame.right ∧ id ∉ (linesAfter outer).map Line.id := by
    rw [linesAfter, List.map_append, map_id_outlineAmong, List.mem_append, not_or]
  constructor
  · rintro ⟨before, after⟩
    rw [notMem_linesBefore_cons_iff] at before
    rw [after_iff] at after
    exact ⟨⟨before.1, after.2⟩, before.2.1, before.2.2, after.1⟩
  · rintro ⟨⟨before, after⟩, other, notLeft, notRight⟩
    exact
      ⟨notMem_linesBefore_cons_iff.mpr ⟨before, other, notLeft⟩, after_iff.mpr ⟨notRight, after⟩⟩

variable {place : Place} {id : String}

theorem insert_fill
    (lacks : place.Lacks id)
    (added node : FilterNode) :
    insert id added (fill place node) = fill place (insert id added node) := by
  induction place generalizing node with
  | nil =>
      rfl
  | cons frame outer inductionHypothesis =>
      obtain ⟨outerLacks, other, notLeft, notRight⟩ := lacks_cons_iff.mp lacks
      have through : insert id added (frame.around node) = frame.around (insert id added node) := by
        rw [Frame.around, insert, if_neg other, insertAmong_append, insertAmong,
          insertAmong_of_notMem added notLeft, insertAmong_of_notMem added notRight, Frame.around]
      rw [fill, inductionHypothesis outerLacks, through, fill]

/-- Nodes are removed inside of a place when none around it has the name, nor the one there. -/
theorem remove_fill
    (lacks : place.Lacks id)
    {node : FilterNode}
    (stays : node.id ≠ id) :
    remove id (fill place node) = fill place (remove id node) := by
  induction place generalizing node with
  | nil =>
      rfl
  | cons frame outer inductionHypothesis =>
      obtain ⟨outerLacks, other, notLeft, notRight⟩ := lacks_cons_iff.mp lacks
      have through : remove id (frame.around node) = frame.around (remove id node) := by
        rw [Frame.around, remove, removeAmong_append, removeAmong, if_neg stays,
          removeAmong_of_notMem _ notLeft, removeAmong_of_notMem _ notRight, Frame.around]
      have groupStays : (frame.around node).id ≠ id := other
      rw [fill, inductionHypothesis outerLacks groupStays, through, fill]

/-- A member of the name is removed from its group, and the other members stay. -/
theorem remove_fill_of_id_eq
    {frame : Frame}
    {outer : Place}
    (lacks : Place.Lacks (frame :: outer) id)
    {node : FilterNode}
    (named : node.id = id) :
    remove id (fill (frame :: outer) node) =
      fill outer (.group frame.id frame.logic (frame.left ++ frame.right)) := by
  obtain ⟨outerLacks, other, notLeft, notRight⟩ := lacks_cons_iff.mp lacks
  have cut :
      remove id (frame.around node) =
        .group frame.id frame.logic (frame.left ++ frame.right) := by
    rw [Frame.around, remove, removeAmong_append, removeAmong, if_pos named,
      removeAmong_of_notMem _ notLeft, removeAmong_of_notMem _ notRight]
  have groupStays : (frame.around node).id ≠ id := other
  rw [fill, remove_fill outerLacks groupStays, cut]

theorem updateNodes_fill
    (lacks : place.Lacks id)
    (changes : Changes)
    (node : FilterNode) :
    updateNodes id changes (fill place node) =
      (updateNodes id changes node).map (fill place) := by
  induction place generalizing node with
  | nil =>
      rw [fill]
      cases updateNodes id changes node <;> rfl
  | cons frame outer inductionHypothesis =>
      obtain ⟨outerLacks, other, notLeft, notRight⟩ := lacks_cons_iff.mp lacks
      rw [fill, inductionHypothesis outerLacks, Frame.around, updateNodes, if_neg other,
        updateAmong_around changes node notLeft notRight]
      cases updateNodes id changes node <;> rfl

/-- What is found at a place is found in the tree when no node before the place has the name. -/
theorem find?_fill
    (absent : id ∉ (linesBefore place).map Line.id)
    {node found : FilterNode}
    (inside : node.find? id = some found) :
    (fill place node).find? id = some found := by
  induction place generalizing node with
  | nil =>
      exact inside
  | cons frame outer inductionHypothesis =>
      obtain ⟨outerAbsent, other, notLeft⟩ := notMem_linesBefore_cons_iff.mp absent
      refine inductionHypothesis outerAbsent ?_
      rw [Frame.around, find?, if_neg other]
      exact findAmong?_around notLeft inside

theorem ids_fill
    (node : FilterNode) :
    (fill place node).ids =
      (linesBefore place).map Line.id ++ (node.ids ++ (linesAfter place).map Line.id) := by
  have outlined : (fill place node).outlineFrom 0 = _ := outline_fill place node
  rw [← map_id_outlineFrom 0, outlined, List.map_append, List.map_append, map_id_outlineFrom]

/-- In a tree with distinct identifiers no node around a place is named like one there. -/
theorem lacks_of_distinct
    {node : FilterNode}
    (distinct : (fill place node).ids.Nodup)
    (inside : id ∈ node.ids) :
    place.Lacks id := by
  rw [ids_fill, List.nodup_append', List.nodup_append'] at distinct
  obtain ⟨-, ⟨-, -, nodeApart⟩, beforeApart⟩ := distinct
  exact
    ⟨fun isBefore => beforeApart isBefore (List.mem_append_left _ inside),
      fun isAfter => nodeApart inside isAfter⟩

end Tabular.FilterNode
