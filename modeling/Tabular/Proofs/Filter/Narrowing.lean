import Tabular.Proofs.Filter.Editing
import Tabular.Proofs.Filter.Evaluation

namespace Tabular

/-!
# Edits that narrow a filter and edits that widen it

Nothing in a filter tree negates, so a tree is met by more rows when the node at one of its places
is, however deep the place lies and whatever logics the groups around it have. What an edit of a
group does to the kept rows is therefore settled at that group: a further member narrows a group
that wants all of them and widens one that wants any. A group without members is met by every row,
so the first member always narrows it, and taking the last one away always widens it.
-/

namespace FilterNode

open Place

variable {test : Condition → Bool} {id : String} {logic : Logic} {members : List FilterNode}

/-! ## When groups are met -/

theorem mem_answers_iff
    {answer : Bool}
    {nodes : List FilterNode} :
    answer ∈ answers test nodes ↔ ∃ node ∈ nodes, node.isMet test = answer := by
  induction nodes with
  | nil =>
      simp [answers]
  | cons child rest inductionHypothesis =>
      rw [answers, List.mem_cons, inductionHypothesis, List.exists_mem_cons_iff, eq_comm]

theorem isMet_all_iff :
    (group id .all members).isMet test = true ↔
      ∀ member ∈ members, member.isMet test = true := by
  have combined :
      Logic.combine .all (answers test members) = !(answers test members).contains false := by
    cases answers test members <;> rfl
  rw [isMet, combined, Bool.not_eq_true', ← Bool.not_eq_true, List.contains_iff_mem,
    mem_answers_iff]
  simp

theorem isMet_any_iff :
    (group id .any members).isMet test = true ↔
      members = [] ∨ ∃ member ∈ members, member.isMet test = true := by
  cases members with
  | nil =>
      simp [isMet, answers, Logic.combine]
  | cons first rest =>
      have combined :
          Logic.combine .any (answers test (first :: rest)) =
            (answers test (first :: rest)).contains true :=
        rfl
      rw [isMet, combined, List.contains_iff_mem, mem_answers_iff]
      simp

/-- A row that meets the first node meets the second one as well. -/
abbrev Implies (test : Condition → Bool) (first second : FilterNode) : Prop :=
  first.isMet test = true → second.isMet test = true

/-- A group is met by more rows when one of its members is. -/
theorem Implies.around
    {node other : FilterNode}
    (implies : Implies test node other)
    (frame : Frame) :
    Implies test (frame.around node) (frame.around other) := by
  obtain ⟨id, logic, left, right⟩ := frame
  cases logic with
  | all =>
      intro isMet
      rw [Frame.around, isMet_all_iff, List.forall_mem_append, List.forall_mem_cons] at isMet ⊢
      exact ⟨isMet.1, implies isMet.2.1, isMet.2.2⟩
  | any =>
      intro isMet
      rw [Frame.around, isMet_any_iff] at isMet ⊢
      obtain isEmpty | ⟨member, inGroup, memberIsMet⟩ := isMet
      · simp at isEmpty
      right
      rw [List.mem_append, List.mem_cons] at inGroup
      rcases inGroup with inLeft | rfl | inRight
      · exact ⟨member, by simp [inLeft], memberIsMet⟩
      · exact ⟨other, by simp, implies memberIsMet⟩
      · exact ⟨member, by simp [inRight], memberIsMet⟩

/-- A tree is met by more rows when the node at one of its places is. -/
theorem Implies.fill
    {node other : FilterNode}
    (implies : Implies test node other)
    (place : Place) :
    Implies test (fill place node) (fill place other) := by
  induction place generalizing node other with
  | nil =>
      exact implies
  | cons frame outer inductionHypothesis =>
      exact inductionHypothesis (implies.around frame)

/-! ## Groups with more members -/

/-- A group that has some of the members of another one is met by more rows if all are wanted. -/
theorem implies_of_subset_all
    {fewer more : List FilterNode}
    (subset : fewer ⊆ more) :
    Implies test (group id .all more) (group id .all fewer) := by
  intro isMet
  rw [isMet_all_iff] at isMet ⊢
  exact fun member inFewer => isMet member (subset inFewer)

/-- A group with further members is met by more rows if one is wanted and it had some before. -/
theorem implies_of_subset_any
    {fewer more : List FilterNode}
    (subset : fewer ⊆ more)
    (notEmpty : fewer ≠ []) :
    Implies test (group id .any fewer) (group id .any more) := by
  intro isMet
  rw [isMet_any_iff] at isMet ⊢
  obtain ⟨member, inFewer, memberIsMet⟩ := isMet.resolve_left notEmpty
  exact .inr ⟨member, subset inFewer, memberIsMet⟩

/-- Every row meets a group without members. -/
theorem implies_empty
    (node : FilterNode) :
    Implies test node (group id logic []) := by
  intro _
  cases logic <;> rfl

/-! ## The place of a group -/

/-- A node that is found lies at a place. -/
theorem exists_place_of_find?_eq_some
    {tree node : FilterNode}
    (distinct : tree.ids.Nodup)
    (found : tree.find? id = some node) :
    ∃ place : Place, fill place node = tree ∧ place.Lacks id := by
  have known : id ∈ tree.ids := by
    by_contra absent
    rw [find?_of_notMem tree absent] at found
    cases found
  obtain ⟨before, below, after, line, block, rfl⟩ := exists_block_of_mem_ids known
  obtain ⟨place, inner, isAt⟩ := block.exists_isAt
  have lacks := isAt.lacks distinct
  have foundAgain := isAt.find?_eq_some (isAt.before_eq ▸ lacks.before)
  obtain rfl := Option.some.inj (foundAgain.symm.trans found)
  exact ⟨place, isAt.fill_eq, lacks⟩

/-! ## Edits of a group -/

section Edits

variable {tree : FilterNode}

/-- Adding to a group gives the group a further member and leaves everything around it. -/
theorem exists_fill_of_insert
    (distinct : tree.ids.Nodup)
    (found : tree.find? id = some (.group id logic members))
    (added : FilterNode) :
    ∃ place, tree = fill place (.group id logic members) ∧
      insert id added tree = fill place (.group id logic (members ++ [added])) := by
  obtain ⟨place, rfl, lacks⟩ := exists_place_of_find?_eq_some distinct found
  refine ⟨place, rfl, ?_⟩
  rw [insert_fill lacks, insert, if_pos rfl]

/-- Removing a member leaves the other members of the group and everything around it. -/
theorem exists_fill_of_remove
    (distinct : tree.ids.Nodup)
    (found : tree.find? id = some (.group id logic members))
    {member : FilterNode}
    (inGroup : member ∈ members) :
    ∃ place left right, members = left ++ member :: right ∧
      tree = fill place (.group id logic members) ∧
        remove member.id tree = fill place (.group id logic (left ++ right)) := by
  obtain ⟨outer, rfl, -⟩ := exists_place_of_find?_eq_some distinct found
  obtain ⟨left, right, rfl⟩ := List.append_of_mem inGroup
  have atMember : (fill (⟨id, logic, left, right⟩ :: outer) member).ids.Nodup := distinct
  have lacks := lacks_of_distinct atMember member.id_mem_ids
  exact ⟨outer, left, right, rfl, rfl, remove_fill_of_id_eq lacks rfl⟩

theorem insert_implies
    (distinct : tree.ids.Nodup)
    (found : tree.find? id = some (.group id logic members))
    (narrows : logic = .all ∨ members = [])
    (added : FilterNode) :
    Implies test (insert id added tree) tree := by
  obtain ⟨place, rfl, inserted⟩ := exists_fill_of_insert distinct found added
  rw [inserted]
  refine Implies.fill ?_ place
  obtain rfl | rfl := narrows
  · exact implies_of_subset_all (List.subset_append_left _ _)
  · exact implies_empty _

theorem implies_insert
    (distinct : tree.ids.Nodup)
    (found : tree.find? id = some (.group id .any members))
    (notEmpty : members ≠ [])
    (added : FilterNode) :
    Implies test tree (insert id added tree) := by
  obtain ⟨place, rfl, inserted⟩ := exists_fill_of_insert distinct found added
  rw [inserted]
  exact (implies_of_subset_any (List.subset_append_left _ _) notEmpty).fill place

theorem implies_remove
    (distinct : tree.ids.Nodup)
    (found : tree.find? id = some (.group id logic members))
    {member : FilterNode}
    (inGroup : member ∈ members)
    (widens : logic = .all ∨ members = [member]) :
    Implies test tree (remove member.id tree) := by
  obtain ⟨place, left, right, rfl, rfl, removed⟩ := exists_fill_of_remove distinct found inGroup
  rw [removed]
  refine Implies.fill ?_ place
  obtain rfl | isOnly := widens
  · exact implies_of_subset_all (by simp)
  · have isEmpty : left ++ right = [] := by
      have oneLong := congrArg List.length isOnly
      rw [List.length_append, List.length_cons, List.length_singleton] at oneLong
      rw [← List.length_eq_zero_iff, List.length_append]
      omega
    rw [isEmpty]
    exact implies_empty _

theorem remove_implies
    (distinct : tree.ids.Nodup)
    (found : tree.find? id = some (.group id .any members))
    {member : FilterNode}
    (inGroup : member ∈ members)
    (others : 2 ≤ members.length) :
    Implies test (remove member.id tree) tree := by
  obtain ⟨place, left, right, rfl, rfl, removed⟩ := exists_fill_of_remove distinct found inGroup
  rw [removed]
  refine (implies_of_subset_any (by simp) ?_).fill place
  rw [← List.length_pos_iff, List.length_append]
  rw [List.length_append, List.length_cons] at others
  omega

end Edits

/-- An evaluation that answers tells whether the tree is met. -/
theorem holds_of_evaluate_eq_ok
    {caseSensitive : Bool}
    {row : Row}
    {node : FilterNode}
    {verdict : Verdict}
    (answered : node.evaluate caseSensitive row = .ok verdict) :
    verdict.holds = node.isMet (·.isMet caseSensitive row) := by
  rcases node.evaluate_settles caseSensitive row with
    ⟨settled, answeredSo, same, -⟩ | ⟨fault, failed, -⟩
  · cases answered.symm.trans answeredSo
    exact same
  · cases answered.symm.trans failed

end FilterNode

/-! ## The rows that are kept -/

section Rows

variable {caseSensitive : Bool} {node other : FilterNode} {table : Table} {kept : Table × Nat}

theorem keepRows_eq_filter
    {rows keptRows : List Row}
    {invalidPatterns : Nat}
    (isKept : keepRows (node.evaluate caseSensitive) rows = .ok (keptRows, invalidPatterns)) :
    keptRows = rows.filter fun row => node.isMet (·.isMet caseSensitive row) := by
  induction rows generalizing keptRows invalidPatterns with
  | nil =>
      cases isKept
      rfl
  | cons row rest inductionHypothesis =>
      obtain ⟨verdict, answered, isKept⟩ := Outcome.bind_eq_ok_iff.mp isKept
      obtain ⟨⟨keptRest, _⟩, restIsKept, isKept⟩ := Outcome.bind_eq_ok_iff.mp isKept
      cases isKept
      rw [List.filter_cons, ← inductionHypothesis restIsKept,
        ← FilterNode.holds_of_evaluate_eq_ok answered]

/-- A filter keeps the rows that meet the tree. -/
theorem rows_of_filterRows_eq_ok
    (filtered : filterRows caseSensitive node table = .ok kept) :
    kept.1.rows = table.rows.filter fun row => node.isMet (·.isMet caseSensitive row) := by
  obtain ⟨⟨keptRows, _⟩, isKept, filtered⟩ := Outcome.bind_eq_ok_iff.mp filtered
  cases filtered
  exact keepRows_eq_filter isKept

/-- A filter that is met by more rows keeps more rows, and keeps them in their order. -/
theorem sublist_of_implies
    (implies : ∀ row : Row, FilterNode.Implies (·.isMet caseSensitive row) node other)
    {keptToo : Table × Nat}
    (filtered : filterRows caseSensitive node table = .ok kept)
    (filteredToo : filterRows caseSensitive other table = .ok keptToo) :
    kept.1.rows.Sublist keptToo.1.rows := by
  rw [rows_of_filterRows_eq_ok filtered, rows_of_filterRows_eq_ok filteredToo]
  exact List.monotone_filter_right table.rows implies

end Rows

/--
In a tree with distinct identifiers, a further member of a group narrows the filter when the group
wants all of its members or has none, and widens it otherwise. Removing a member widens it when the
group wants all or has no other member, and narrows it otherwise.
-/
theorem editing_group_narrows_or_widens
    (caseSensitive : Bool)
    {tree : FilterNode}
    (distinct : tree.ids.Nodup)
    {id : String}
    {logic : Logic}
    {members : List FilterNode}
    (found : tree.find? id = some (.group id logic members))
    {table : Table}
    {before : Table × Nat}
    (filtered : filterRows caseSensitive tree table = .ok before) :
    (∀ (added : FilterNode) (after : Table × Nat),
      filterRows caseSensitive (FilterNode.insert id added tree) table = .ok after →
        (logic = .all ∨ members = [] → after.1.rows.Sublist before.1.rows) ∧
          (logic = .any ∧ members ≠ [] → before.1.rows.Sublist after.1.rows)) ∧
      ∀ member ∈ members, ∀ after : Table × Nat,
        filterRows caseSensitive (FilterNode.remove member.id tree) table = .ok after →
          (logic = .all ∨ members = [member] → before.1.rows.Sublist after.1.rows) ∧
            (logic = .any ∧ 2 ≤ members.length → after.1.rows.Sublist before.1.rows) := by
  refine ⟨fun added after filteredToo => ⟨fun narrows => ?_, ?_⟩,
    fun member inGroup after filteredToo => ⟨fun widens => ?_, ?_⟩⟩
  · exact sublist_of_implies (fun _ => FilterNode.insert_implies distinct found narrows added)
      filteredToo filtered
  · rintro ⟨rfl, notEmpty⟩
    exact sublist_of_implies (fun _ => FilterNode.implies_insert distinct found notEmpty added)
      filtered filteredToo
  · exact sublist_of_implies (fun _ => FilterNode.implies_remove distinct found inGroup widens)
      filtered filteredToo
  · rintro ⟨rfl, others⟩
    exact sublist_of_implies (fun _ => FilterNode.remove_implies distinct found inGroup others)
      filteredToo filtered

namespace FilterNode.Sample

/-- An order of a city that has got to a state. -/
def order (city state : String) : Row :=
  .ofList [("city", .text city), ("state", .text state)]

/-- Three orders, of which the filter keeps the first. -/
def ledger : Table :=
  .ofRows (some "ledger") [order "Oslo" "paid", order "Oslo" "lost", order "Rome" "sent"]

/-- A third state lets another order in; with one state less none comes in. -/
theorem editing_states_narrows_or_widens :
    orders.ids.Nodup ∧
      orders.find? "states" = some (.group "states" .any [hasState "paid", hasState "sent"]) ∧
      filterRows false orders ledger = .ok (ledger.derive [order "Oslo" "paid"], 0) ∧
      filterRows false (insert "states" (hasState "lost") orders) ledger =
        .ok (ledger.derive [order "Oslo" "paid", order "Oslo" "lost"], 0) ∧
      filterRows false (remove "paid" orders) ledger = .ok (ledger.derive [], 0) ∧
      [order "Oslo" "paid"].Sublist [order "Oslo" "paid", order "Oslo" "lost"] ∧
      [].Sublist [order "Oslo" "paid"] := by
  have distinct : orders.ids.Nodup := by decide
  have found :
      orders.find? "states" = some (.group "states" .any [hasState "paid", hasState "sent"]) :=
    rfl
  have filtered : filterRows false orders ledger = .ok (ledger.derive [order "Oslo" "paid"], 0) :=
    rfl
  have widened :
      filterRows false (insert "states" (hasState "lost") orders) ledger =
        .ok (ledger.derive [order "Oslo" "paid", order "Oslo" "lost"], 0) :=
    rfl
  have narrowed : filterRows false (remove "paid" orders) ledger = .ok (ledger.derive [], 0) :=
    rfl
  obtain ⟨additions, removals⟩ :=
    editing_group_narrows_or_widens false distinct found filtered
  exact
    ⟨distinct, found, filtered, widened, narrowed, (additions _ _ widened).2 ⟨rfl, by decide⟩,
      (removals (hasState "paid") (by simp) _ narrowed).2 ⟨rfl, by decide⟩⟩

end FilterNode.Sample

end Tabular
