import Mathlib.Data.List.Nodup
import Mathlib.Data.List.TakeWhile
import Tabular.Filter.Node

namespace Tabular.FilterNode

/-!
# The outline of a filter tree

A tree can be written as a list of lines, one for each node, a group before its members: how deep
the node lies, and what it has of its own. The outline tells the tree. Each of its lines stands for
the node at some place of the tree, and the deeper lines that follow it are those of the members of
that node.

A place is told by the groups around it, the innermost one first.
-/

/-- What a node has of its own, apart from its members. -/
inductive Label where
  | condition (leaf : Condition)
  | group (id : String) (logic : Logic)
deriving DecidableEq

/-- The identifier of the node with the label. -/
def Label.id : Label → String
  | .condition leaf => leaf.id
  | .group id _ => id

/-- A node in an outline: the number of groups around it, and what it has of its own. -/
structure Line where
  depth : Nat
  label : Label
deriving DecidableEq

/-- The identifier of the node that the line stands for. -/
def Line.id (line : Line) : String :=
  line.label.id

mutual

/-- The lines of a tree that lies at a depth. -/
def outlineFrom (depth : Nat) : FilterNode → List Line
  | .condition leaf => [⟨depth, .condition leaf⟩]
  | .group id logic children =>
      ⟨depth, .group id logic⟩ :: outlineAmong (depth + 1) children

/-- The lines of several trees that lie at a depth. -/
def outlineAmong (depth : Nat) : List FilterNode → List Line
  | [] => []
  | child :: rest => outlineFrom depth child ++ outlineAmong depth rest

end

/-- The lines of a tree. -/
abbrev outline (tree : FilterNode) : List Line :=
  tree.outlineFrom 0

mutual

/-- The identifiers of a tree, a group before its members. -/
def ids : FilterNode → List String
  | .condition leaf => [leaf.id]
  | .group id _ children => id :: idsAmong children

/-- The identifiers of several trees. -/
def idsAmong : List FilterNode → List String
  | [] => []
  | child :: rest => ids child ++ idsAmong rest

end

@[simp] theorem outlineAmong_append
    (depth : Nat)
    (first second : List FilterNode) :
    outlineAmong depth (first ++ second) =
      outlineAmong depth first ++ outlineAmong depth second := by
  induction first with
  | nil =>
      rfl
  | cons child rest inductionHypothesis =>
      simp [outlineAmong, inductionHypothesis]

mutual

/-- The outline has the identifiers of the tree, whatever the depth. -/
theorem map_id_outlineFrom
    (depth : Nat) :
    ∀ node : FilterNode, (node.outlineFrom depth).map Line.id = node.ids
  | .condition _ => rfl
  | .group id _ children => by
      rw [outlineFrom, ids, List.map_cons, map_id_outlineAmong (depth + 1) children]
      rfl

theorem map_id_outlineAmong
    (depth : Nat) :
    ∀ nodes : List FilterNode,
      (outlineAmong depth nodes).map Line.id = idsAmong nodes
  | [] => rfl
  | child :: rest => by
      rw [outlineAmong, idsAmong, List.map_append, map_id_outlineFrom depth child,
        map_id_outlineAmong depth rest]

end

/-- The identifier of a node is the first one of its tree. -/
theorem id_mem_ids
    (node : FilterNode) :
    node.id ∈ node.ids := by
  cases node <;>
    simp [id, ids]

mutual

/-- No line of a tree lies higher than the tree. -/
theorem le_depth_of_mem_outlineFrom
    (depth : Nat) :
    ∀ (node : FilterNode), ∀ line ∈ node.outlineFrom depth, depth ≤ line.depth
  | .condition _, line, member => by
      cases List.mem_singleton.mp member
      exact Nat.le_refl depth
  | .group _ _ children, line, member => by
      rcases List.mem_cons.mp member with rfl | below
      · exact Nat.le_refl depth
      · exact Nat.le_of_succ_le
          (le_depth_of_mem_outlineAmong (depth + 1) children line below)

theorem le_depth_of_mem_outlineAmong
    (depth : Nat) :
    ∀ (nodes : List FilterNode), ∀ line ∈ outlineAmong depth nodes, depth ≤ line.depth
  | [], _, member => absurd member List.not_mem_nil
  | child :: rest, line, member => by
      rcases List.mem_append.mp member with inChild | inRest
      · exact le_depth_of_mem_outlineFrom depth child line inChild
      · exact le_depth_of_mem_outlineAmong depth rest line inRest

end

/-- The outline of a tree starts with the line of its root. -/
theorem exists_outlineFrom_eq_cons
    (depth : Nat)
    (node : FilterNode) :
    ∃ label below, node.outlineFrom depth = ⟨depth, label⟩ :: below ∧ label.id = node.id := by
  cases node with
  | condition leaf =>
      exact ⟨_, [], rfl, rfl⟩
  | group id logic children =>
      exact ⟨_, _, rfl, rfl⟩

/-- The lines of several trees start at their depth. -/
theorem depth_of_mem_head?_outlineAmong
    {depth : Nat}
    {nodes : List FilterNode}
    {line : Line}
    (isFirst : line ∈ (outlineAmong depth nodes).head?) :
    line.depth = depth := by
  cases nodes with
  | nil =>
      cases isFirst
  | cons child rest =>
      obtain ⟨label, below, startsWith, -⟩ := exists_outlineFrom_eq_cons depth child
      rw [outlineAmong, startsWith] at isFirst
      cases isFirst
      rfl

/-! ## The outline tells the tree -/

/-- The lines do not go on below a depth. -/
abbrev EndsBelow (depth : Nat) (lines : List Line) : Prop :=
  ∀ line ∈ lines.head?, line.depth ≤ depth

theorem endsBelow_nil
    (depth : Nat) :
    EndsBelow depth [] :=
  fun _ isFirst => nomatch isFirst

theorem endsBelow_outlineAmong_append
    {depth : Nat}
    {nodes : List FilterNode}
    {lines : List Line}
    (ends : EndsBelow depth lines) :
    EndsBelow depth (outlineAmong depth nodes ++ lines) := by
  intro line isFirst
  rw [List.head?_append] at isFirst
  rcases Option.or_eq_some_iff.mp isFirst with ofNodes | ⟨-, ofLines⟩
  · exact Nat.le_of_eq (depth_of_mem_head?_outlineAmong ofNodes)
  · exact ends line ofLines

mutual

/-- Trees at the same depth with the same lines, before lines that lie no deeper, are the same. -/
theorem outlineFrom_append_inj
    (depth : Nat) :
    ∀ (node other : FilterNode) {rest others : List Line},
      EndsBelow depth rest → EndsBelow depth others →
        node.outlineFrom depth ++ rest = other.outlineFrom depth ++ others →
          node = other ∧ rest = others
  | .condition leaf, .condition otherLeaf, rest, others, _, _, same => by
      obtain ⟨sameLine, sameRest⟩ := List.cons.inj same
      cases sameLine
      exact ⟨rfl, sameRest⟩
  | .condition leaf, .group id logic children, rest, others, _, _, same => by
      cases (List.cons.inj same).1
  | .group id logic children, .condition leaf, rest, others, _, _, same => by
      cases (List.cons.inj same).1
  | .group id logic children, .group otherId otherLogic otherChildren, rest, others, ends,
      otherEnds, same => by
      obtain ⟨sameLine, sameBelow⟩ := List.cons.inj same
      obtain ⟨rfl, sameRest⟩ :=
        outlineAmong_append_inj depth children otherChildren ends otherEnds sameBelow
      cases sameLine
      exact ⟨rfl, sameRest⟩

/-- The same of several trees, before lines that do not lie as deep. -/
theorem outlineAmong_append_inj
    (depth : Nat) :
    ∀ (nodes others : List FilterNode) {rest otherRest : List Line},
      EndsBelow depth rest → EndsBelow depth otherRest →
        outlineAmong (depth + 1) nodes ++ rest = outlineAmong (depth + 1) others ++ otherRest →
          nodes = others ∧ rest = otherRest
  | [], [], rest, otherRest, _, _, same => ⟨rfl, same⟩
  | [], other :: others, rest, otherRest, ends, _, same => by
      obtain ⟨label, below, startsWith, -⟩ := exists_outlineFrom_eq_cons (depth + 1) other
      rw [outlineAmong, outlineAmong, startsWith] at same
      rw [show rest = _ from same] at ends
      exact absurd (ends _ rfl) (Nat.not_succ_le_self depth)
  | node :: nodes, [], rest, otherRest, _, otherEnds, same => by
      obtain ⟨label, below, startsWith, -⟩ := exists_outlineFrom_eq_cons (depth + 1) node
      rw [outlineAmong, outlineAmong, startsWith] at same
      rw [show otherRest = _ from same.symm] at otherEnds
      exact absurd (otherEnds _ rfl) (Nat.not_succ_le_self depth)
  | node :: nodes, other :: others, rest, otherRest, ends, otherEnds, same => by
      have deeper {lines : List Line} (ends : EndsBelow depth lines) :
          EndsBelow (depth + 1) lines :=
        fun line isFirst => Nat.le_succ_of_le (ends line isFirst)
      rw [outlineAmong, outlineAmong, List.append_assoc, List.append_assoc] at same
      obtain ⟨rfl, sameRest⟩ :=
        outlineFrom_append_inj (depth + 1) node other
          (endsBelow_outlineAmong_append (deeper ends))
          (endsBelow_outlineAmong_append (deeper otherEnds)) same
      obtain ⟨rfl, sameEnd⟩ :=
        outlineAmong_append_inj depth nodes others ends otherEnds sameRest
      exact ⟨rfl, sameEnd⟩

end

/-- Trees with the same outline are the same. -/
theorem outlineFrom_injective
    (depth : Nat) :
    Function.Injective (outlineFrom depth) := by
  intro node other same
  exact
    (outlineFrom_append_inj depth node other (endsBelow_nil depth) (endsBelow_nil depth)
      (congrArg (· ++ []) same)).1

/-! ## Lines and what is below them -/

/-- A line of an outline, with the lines before it, the deeper ones right below it, and the rest. -/
structure Block (lines before : List Line) (line : Line) (below after : List Line) : Prop where
  split : lines = before ++ line :: (below ++ after)
  deeper : ∀ other ∈ below, line.depth < other.depth
  ends : EndsBelow line.depth after

/-- Every line has its block: what is below it goes on to the first line that is not deeper. -/
theorem exists_block_of_mem
    {lines : List Line}
    {line : Line}
    (member : line ∈ lines) :
    ∃ before below after, Block lines before line below after := by
  obtain ⟨before, rest, split⟩ := List.append_of_mem member
  refine ⟨before, rest.takeWhile fun other => line.depth < other.depth,
    rest.dropWhile fun other => line.depth < other.depth, ?_, ?_, ?_⟩
  · rw [List.takeWhile_append_dropWhile, split]
  · exact fun other isBelow => by simpa using List.mem_takeWhile_imp isBelow
  · intro other isFirst
    have isHigh := List.head?_dropWhile_not (fun other : Line => line.depth < other.depth) rest
    rw [isFirst] at isHigh
    simpa using isHigh

/--
In the lines of a tree and of the trees beside it, a line is one of the tree, and then what is below
it is of the tree as well, or one of the others.
-/
theorem Block.of_append
    {first second before below after : List Line}
    {line : Line}
    {depth : Nat}
    (block : Block (first ++ second) before line below after)
    (firstIsDeep : ∀ other ∈ first, depth ≤ other.depth)
    (secondEnds : EndsBelow depth second) :
    (∃ afterFirst, Block first before line below afterFirst ∧ after = afterFirst ++ second) ∨
      ∃ beforeSecond, Block second beforeSecond line below after ∧
        before = first ++ beforeSecond := by
  rcases List.append_eq_append_iff.mp block.split with
    ⟨beforeSecond, rfl, isSecond⟩ | ⟨tail, rfl, sameTail⟩
  · exact .inr ⟨beforeSecond, ⟨isSecond, block.deeper, block.ends⟩, rfl⟩
  · cases tail with
    | nil =>
        exact .inr ⟨[], ⟨sameTail.symm, block.deeper, block.ends⟩, by simp⟩
    | cons head tail =>
        obtain ⟨rfl, sameBelow⟩ := List.cons.inj sameTail
        have lineIsDeep : depth ≤ line.depth := firstIsDeep line (by simp)
        left
        rcases List.append_eq_append_iff.mp sameBelow with
          ⟨afterFirst, rfl, rfl⟩ | ⟨excess, rfl, isSecond⟩
        · refine ⟨afterFirst, ⟨rfl, block.deeper, ?_⟩, rfl⟩
          intro other isFirst
          exact block.ends other (by rw [List.head?_append, isFirst]; rfl)
        · cases excess with
          | nil =>
              refine ⟨[], ⟨by simp, by simpa using block.deeper, endsBelow_nil _⟩, ?_⟩
              simpa using isSecond.symm
          | cons other excess =>
              have isHigh : other.depth ≤ depth := secondEnds other (by rw [isSecond]; rfl)
              have isDeep : line.depth < other.depth := block.deeper other (by simp)
              omega

/-! ## Places -/

/-- A group around a place: what it has of its own, and its members on both sides of the place. -/
structure Frame where
  id : String
  logic : Logic
  left : List FilterNode
  right : List FilterNode

/-- The group with a node at the place. -/
def Frame.around (frame : Frame) (node : FilterNode) : FilterNode :=
  .group frame.id frame.logic (frame.left ++ node :: frame.right)

/-- A place in a tree, as the groups around it from the inside to the outside. -/
abbrev Place := List Frame

namespace Place

/-- The tree with a node at the place. -/
def fill : Place → FilterNode → FilterNode
  | [], node => node
  | frame :: outer, node => fill outer (frame.around node)

/-- The lines before the place. -/
def linesBefore : Place → List Line
  | [] => []
  | frame :: outer =>
      linesBefore outer ++
        ⟨outer.length, .group frame.id frame.logic⟩ ::
          outlineAmong (outer.length + 1) frame.left

/-- The lines after the place. -/
def linesAfter : Place → List Line
  | [] => []
  | frame :: outer => outlineAmong (outer.length + 1) frame.right ++ linesAfter outer

end Place

open Place

theorem outline_fill
    (place : Place)
    (node : FilterNode) :
    (fill place node).outline =
      linesBefore place ++ (node.outlineFrom place.length ++ linesAfter place) := by
  induction place generalizing node with
  | nil =>
      simp [fill, linesBefore, linesAfter]
  | cons frame outer inductionHypothesis =>
      rw [fill, inductionHypothesis, Frame.around, outlineFrom]
      simp [linesBefore, linesAfter, outlineAmong]

/-- The node lies at the place that the line and what is around it tell. -/
structure Block.IsAt (tree : FilterNode) (before : List Line) (line : Line)
    (below after : List Line) (place : Place) (node : FilterNode) : Prop where
  fill_eq : fill place node = tree
  before_eq : linesBefore place = before
  lines_eq : node.outlineFrom place.length = line :: below
  after_eq : linesAfter place = after

mutual

/-- Every line of a node that lies at some place stands for a node at a place further inside. -/
theorem exists_isAt_of_outlineFrom
    (outer : Place) :
    ∀ (node : FilterNode) {before below after : List Line} {line : Line},
      Block (node.outlineFrom outer.length) before line below after →
        ∃ place inner,
          Block.IsAt (fill outer node) (linesBefore outer ++ before) line below
            (after ++ linesAfter outer) place inner
  | .condition leaf, before, below, after, line, block => by
      have split := block.split
      cases before with
      | nil =>
          obtain ⟨rfl, isEmpty⟩ := List.cons.inj split
          obtain ⟨rfl, rfl⟩ := List.append_eq_nil_iff.mp isEmpty.symm
          exact ⟨outer, .condition leaf, rfl, by simp, rfl, by simp⟩
      | cons first before =>
          simp [outlineFrom] at split
  | .group id logic children, before, below, after, line, block => by
      have split := block.split
      cases before with
      | nil =>
          obtain ⟨rfl, sameBelow⟩ := List.cons.inj split
          have isEmpty : after = [] := by
            cases after with
            | nil =>
                rfl
            | cons other after =>
                have isHigh : other.depth ≤ outer.length := block.ends other rfl
                have isDeep : outer.length + 1 ≤ other.depth :=
                  le_depth_of_mem_outlineAmong _ children other (by simp [sameBelow])
                omega
          subst isEmpty
          refine ⟨outer, .group id logic children, rfl, by simp, ?_, by simp⟩
          rw [outlineFrom, sameBelow, List.append_nil]
      | cons first before =>
          obtain ⟨rfl, sameBelow⟩ := List.cons.inj split
          exact exists_isAt_of_outlineAmong outer id logic [] children
            ⟨sameBelow, block.deeper, block.ends⟩

theorem exists_isAt_of_outlineAmong
    (outer : Place)
    (id : String)
    (logic : Logic)
    (left : List FilterNode) :
    ∀ (nodes : List FilterNode) {before below after : List Line} {line : Line},
      Block (outlineAmong (outer.length + 1) nodes) before line below after →
        ∃ place inner,
          Block.IsAt (fill outer (.group id logic (left ++ nodes)))
            (linesBefore outer ++
              ⟨outer.length, .group id logic⟩ ::
                (outlineAmong (outer.length + 1) left ++ before))
            line below (after ++ linesAfter outer) place inner
  | [], before, below, after, line, block => by
      have split := block.split
      simp [outlineAmong] at split
  | child :: rest, before, below, after, line, block => by
      rcases block.of_append (le_depth_of_mem_outlineFrom _ child)
          (fun _ isFirst => Nat.le_of_eq (depth_of_mem_head?_outlineAmong isFirst)) with
        ⟨afterChild, inChild, rfl⟩ | ⟨beforeRest, inRest, rfl⟩
      · have found := exists_isAt_of_outlineFrom (⟨id, logic, left, rest⟩ :: outer) child inChild
        simpa [fill, Frame.around, linesBefore, linesAfter] using found
      · have found := exists_isAt_of_outlineAmong outer id logic (left ++ [child]) rest inRest
        simpa [outlineAmong] using found

end

/-- Every line of an outline stands for the node at some place of the tree. -/
theorem Block.exists_isAt
    {tree : FilterNode}
    {before below after : List Line}
    {line : Line}
    (block : Block tree.outline before line below after) :
    ∃ place node, Block.IsAt tree before line below after place node := by
  simpa [fill, linesBefore, linesAfter] using exists_isAt_of_outlineFrom [] tree block

end Tabular.FilterNode
