import Tabular.Proofs.Filter.Narrowing

namespace Tabular

/-!
# Filters made of filters

A group that wants all of its members keeps what filtering by one member after the other keeps, and
a group that wants any of them keeps what some member keeps. The members of a nested group are come
to in the same order when they stand in place of their group, as long as both groups have the same
logic; so even the faults of an evaluation and the invalid patterns that it meets are the same. The
order of the members settles which conditions are come to, but not which rows are kept.
-/

/-! ## Verdicts one after the other -/

namespace Verdict

theorem after_after
    (first second third : Verdict) :
    (first.after second).after third = first.after (second.after third) := by
  simp [after, Nat.add_assoc]

end Verdict

namespace Logic

/-- The verdict on some members, and on further ones if the answer is still open. -/
def andThen (logic : Logic) (first rest : Outcome Verdict) : Outcome Verdict := do
  let verdict ← first
  if logic.isOpenAfter verdict.holds then return verdict.after (← rest)
  else return verdict

/-- The verdict on a group when none of its members has settled the answer. -/
def unsettled : Logic → Verdict
  | .all => { holds := true }
  | .any => { holds := false }

variable {logic : Logic} {verdict : Verdict}

theorem andThen_of_settled
    (settled : logic.isOpenAfter verdict.holds = false)
    (rest : Outcome Verdict) :
    logic.andThen (.ok verdict) rest = .ok verdict :=
  if_neg (Bool.eq_false_iff.mp settled)

theorem andThen_of_open
    (isOpen : logic.isOpenAfter verdict.holds = true)
    (rest : Outcome Verdict) :
    logic.andThen (.ok verdict) rest = rest.map verdict.after :=
  (if_pos isOpen).trans (by cases rest <;> rfl)

theorem andThen_assoc
    (first second third : Outcome Verdict) :
    logic.andThen (logic.andThen first second) third =
      logic.andThen first (logic.andThen second third) := by
  cases first with
  | error fault =>
      rfl
  | ok verdict =>
      cases isOpen : logic.isOpenAfter verdict.holds with
      | false =>
          rw [andThen_of_settled isOpen, andThen_of_settled isOpen, andThen_of_settled isOpen]
      | true =>
          rw [andThen_of_open isOpen, andThen_of_open isOpen]
          cases second with
          | error fault =>
              rfl
          | ok further =>
              have sameAnswer : (verdict.after further).holds = further.holds := rfl
              cases stillOpen : logic.isOpenAfter further.holds with
              | false =>
                  rw [andThen_of_settled stillOpen]
                  exact andThen_of_settled (sameAnswer ▸ stillOpen) third
              | true =>
                  rw [andThen_of_open stillOpen]
                  refine (andThen_of_open (sameAnswer ▸ stillOpen) third).trans ?_
                  cases third with
                  | error fault =>
                      rfl
                  | ok last =>
                      exact congrArg Except.ok (Verdict.after_after verdict further last)

theorem unsettled_andThen
    (rest : Outcome Verdict) :
    logic.andThen (.ok logic.unsettled) rest = rest := by
  rw [andThen_of_open (by cases logic <;> rfl)]
  cases rest with
  | error fault =>
      rfl
  | ok verdict =>
      cases logic <;> simp [Except.map, unsettled, Verdict.after]

theorem andThen_unsettled
    (first : Outcome Verdict) :
    logic.andThen first (.ok logic.unsettled) = first := by
  cases first with
  | error fault =>
      rfl
  | ok verdict =>
      cases isOpen : logic.isOpenAfter verdict.holds with
      | false =>
          exact andThen_of_settled isOpen _
      | true =>
          obtain ⟨holds, invalidPatterns⟩ := verdict
          rw [andThen_of_open isOpen]
          cases logic <;> cases holds <;> cases isOpen <;> rfl

theorem exists_andThen
    {first second : Outcome Verdict}
    (firstAnswers : ∃ verdict, first = .ok verdict)
    (secondAnswers : ∃ verdict, second = .ok verdict) :
    ∃ verdict, logic.andThen first second = .ok verdict := by
  obtain ⟨verdict, rfl⟩ := firstAnswers
  obtain ⟨further, rfl⟩ := secondAnswers
  cases isOpen : logic.isOpenAfter verdict.holds with
  | false => exact ⟨verdict, andThen_of_settled isOpen _⟩
  | true => exact ⟨verdict.after further, andThen_of_open isOpen _⟩

/-- The verdict on two members that are both wanted is that on the first one, unless it holds. -/
theorem all_andThen_eq_ok_iff
    {first second : Outcome Verdict} :
    Logic.all.andThen first second = .ok verdict ↔
      (first = .ok verdict ∧ verdict.holds = false) ∨
        ∃ verdictFirst verdictSecond,
          first = .ok verdictFirst ∧ verdictFirst.holds = true ∧ second = .ok verdictSecond ∧
            verdict = verdictFirst.after verdictSecond := by
  cases first with
  | error fault =>
      simp [andThen, bind, Except.bind]
  | ok verdictFirst =>
      cases passes : verdictFirst.holds with
      | false =>
          have settled : Logic.all.isOpenAfter verdictFirst.holds = false := passes
          rw [andThen_of_settled settled]
          constructor
          · rintro ⟨⟩
            exact .inl ⟨rfl, passes⟩
          · rintro (⟨isFirst, -⟩ | ⟨_, _, ⟨⟩, holds, -⟩)
            · exact isFirst
            · simp [passes] at holds
      | true =>
          have isOpen : Logic.all.isOpenAfter verdictFirst.holds = true := passes
          rw [andThen_of_open isOpen]
          cases second with
          | error fault =>
              constructor
              · rintro ⟨⟩
              · rintro (⟨⟨⟩, fails⟩ | ⟨_, _, -, -, ⟨⟩, -⟩)
                simp [passes] at fails
          | ok verdictSecond =>
              constructor
              · rintro ⟨⟩
                exact .inr ⟨verdictFirst, verdictSecond, rfl, passes, rfl, rfl⟩
              · rintro (⟨⟨⟩, fails⟩ | ⟨_, _, ⟨⟩, -, ⟨⟩, rfl⟩)
                · simp [passes] at fails
                · rfl

end Logic

namespace FilterNode

/-! ## Evaluating groups -/

section Groups

variable (caseSensitive : Bool) (row : Row)

/-- The verdict on a list of members that are joined by a logic. -/
def evaluateMembers : Logic → List FilterNode → Outcome Verdict
  | .all => evaluateAll caseSensitive row
  | .any => evaluateAny caseSensitive row

variable {caseSensitive row} {id : String} {logic : Logic}

theorem evaluateMembers_nil :
    evaluateMembers caseSensitive row logic [] = .ok logic.unsettled := by
  cases logic with
  | all => rw [evaluateMembers, evaluateAll, Logic.unsettled]
  | any => rw [evaluateMembers, evaluateAny, Logic.unsettled]

theorem evaluateMembers_cons
    (child : FilterNode)
    (rest : List FilterNode) :
    evaluateMembers caseSensitive row logic (child :: rest) =
      logic.andThen (evaluate caseSensitive row child)
        (evaluateMembers caseSensitive row logic rest) := by
  cases logic with
  | all =>
      rw [evaluateMembers, evaluateAll]
      rfl
  | any =>
      rw [evaluateMembers, evaluateAny_cons]
      rfl

theorem evaluateMembers_append
    (first second : List FilterNode) :
    evaluateMembers caseSensitive row logic (first ++ second) =
      logic.andThen (evaluateMembers caseSensitive row logic first)
        (evaluateMembers caseSensitive row logic second) := by
  induction first with
  | nil =>
      rw [List.nil_append, evaluateMembers_nil, Logic.unsettled_andThen]
  | cons child rest inductionHypothesis =>
      rw [List.cons_append, evaluateMembers_cons, evaluateMembers_cons, inductionHypothesis,
        Logic.andThen_assoc]

/-- A group with members has the verdict on them. -/
theorem evaluate_group
    {members : List FilterNode}
    (notEmpty : members ≠ []) :
    evaluate caseSensitive row (.group id logic members) =
      evaluateMembers caseSensitive row logic members := by
  obtain ⟨child, rest, rfl⟩ := List.exists_cons_of_ne_nil notEmpty
  cases logic with
  | all => exact evaluate_all caseSensitive row
  | any => exact evaluate_any caseSensitive row

theorem evaluate_singleton
    (child : FilterNode) :
    evaluate caseSensitive row (.group id logic [child]) = evaluate caseSensitive row child := by
  rw [evaluate_group (List.cons_ne_nil child []), evaluateMembers_cons, evaluateMembers_nil,
    Logic.andThen_unsettled]

theorem evaluate_pair
    (first second : FilterNode) :
    evaluate caseSensitive row (.group id logic [first, second]) =
      logic.andThen (evaluate caseSensitive row first) (evaluate caseSensitive row second) := by
  rw [evaluate_group (List.cons_ne_nil first _), evaluateMembers_cons, evaluateMembers_cons,
    evaluateMembers_nil, Logic.andThen_unsettled]

/-- A nested group with the same logic can give way to its members, if it has some. -/
theorem evaluate_unnested
    {inner : String}
    {nested : List FilterNode}
    (notEmpty : nested ≠ [])
    (left right : List FilterNode) :
    evaluate caseSensitive row (.group id logic (left ++ .group inner logic nested :: right)) =
      evaluate caseSensitive row (.group id logic (left ++ nested ++ right)) := by
  rw [evaluate_group (by simp), evaluate_group (by simp [notEmpty]), List.append_assoc,
    evaluateMembers_append, evaluateMembers_append left, evaluateMembers_cons,
    evaluate_group notEmpty, evaluateMembers_append nested]

/-- A tree has the same verdict when the node at one of its places has. -/
theorem evaluate_fill
    {node other : FilterNode}
    (same : evaluate caseSensitive row node = evaluate caseSensitive row other)
    (place : Place) :
    evaluate caseSensitive row (place.fill node) =
      evaluate caseSensitive row (place.fill other) := by
  induction place generalizing node other with
  | nil =>
      exact same
  | cons frame outer inductionHypothesis =>
      apply inductionHypothesis
      rw [Frame.around, Frame.around, evaluate_group (by simp), evaluate_group (by simp),
        evaluateMembers_append, evaluateMembers_append, evaluateMembers_cons, evaluateMembers_cons,
        same]

end Groups

/-! ## The order of the members -/

section Order

variable {test : Condition → Bool} {id : String} {logic : Logic}
variable {members shuffled : List FilterNode}

theorem implies_of_perm
    (perm : members.Perm shuffled) :
    Implies test (.group id logic members) (.group id logic shuffled) := by
  cases logic with
  | all =>
      exact implies_of_subset_all perm.symm.subset
  | any =>
      by_cases isEmpty : members = []
      · subst isEmpty
        obtain rfl := List.nil_perm.mp perm
        exact fun isMet => isMet
      · exact implies_of_subset_any perm.subset isEmpty

/-- A tree is met by the same rows whatever the order of the members of a group in it. -/
theorem isMet_fill_of_perm
    (perm : members.Perm shuffled)
    (place : Place) :
    (place.fill (.group id logic members)).isMet test =
      (place.fill (.group id logic shuffled)).isMet test :=
  Bool.eq_iff_iff.mpr
    ⟨(implies_of_perm perm).fill place, (implies_of_perm perm.symm).fill place⟩

end Order

end FilterNode

/-! ## The rows that filters keep -/

section Rows

variable {caseSensitive : Bool}

theorem keepRows_cons_eq_ok_iff
    {test : Row → Outcome Verdict}
    {row : Row}
    {rest kept : List Row}
    {invalidPatterns : Nat} :
    keepRows test (row :: rest) = .ok (kept, invalidPatterns) ↔
      ∃ verdict keptRest invalidRest,
        test row = .ok verdict ∧ keepRows test rest = .ok (keptRest, invalidRest) ∧
          kept = (if verdict.holds then row :: keptRest else keptRest) ∧
            invalidPatterns = verdict.invalidPatterns + invalidRest := by
  rw [keepRows, Outcome.bind_eq_ok_iff]
  constructor
  · rintro ⟨verdict, answered, isKept⟩
    obtain ⟨⟨keptRest, invalidRest⟩, restIsKept, isKept⟩ := Outcome.bind_eq_ok_iff.mp isKept
    cases isKept
    exact ⟨verdict, keptRest, invalidRest, answered, restIsKept, rfl, rfl⟩
  · rintro ⟨verdict, keptRest, invalidRest, answered, restIsKept, rfl, rfl⟩
    exact ⟨verdict, answered, Outcome.bind_eq_ok_iff.mpr ⟨_, restIsKept, rfl⟩⟩

/-- Rows can be tested if each of them can. -/
theorem exists_keepRows_iff
    {test : Row → Outcome Verdict}
    {rows : List Row} :
    (∃ kept, keepRows test rows = .ok kept) ↔ ∀ row ∈ rows, ∃ verdict, test row = .ok verdict := by
  induction rows with
  | nil =>
      simp [keepRows]
  | cons row rest inductionHypothesis =>
      rw [List.forall_mem_cons, ← inductionHypothesis]
      constructor
      · rintro ⟨⟨kept, invalidPatterns⟩, isKept⟩
        obtain ⟨verdict, keptRest, invalidRest, answered, restIsKept, -, -⟩ :=
          keepRows_cons_eq_ok_iff.mp isKept
        exact ⟨⟨verdict, answered⟩, _, restIsKept⟩
      · rintro ⟨⟨verdict, answered⟩, ⟨keptRest, invalidRest⟩, restIsKept⟩
        exact
          ⟨_, keepRows_cons_eq_ok_iff.mpr
            ⟨verdict, keptRest, invalidRest, answered, restIsKept, rfl, rfl⟩⟩

/-- Tests of rows answer for them in any order, and meet as many invalid patterns. -/
theorem exists_keepRows_of_perm
    {test : Row → Outcome Verdict}
    {rows shuffled : List Row}
    (perm : rows.Perm shuffled)
    {invalidPatterns : Nat}
    (isKept : ∃ kept, keepRows test rows = .ok (kept, invalidPatterns)) :
    ∃ kept, keepRows test shuffled = .ok (kept, invalidPatterns) := by
  induction perm generalizing invalidPatterns with
  | nil =>
      exact isKept
  | cons row perm inductionHypothesis =>
      obtain ⟨kept, isKept⟩ := isKept
      obtain ⟨verdict, keptRest, invalidRest, answered, restIsKept, -, rfl⟩ :=
        keepRows_cons_eq_ok_iff.mp isKept
      obtain ⟨keptShuffled, isKeptShuffled⟩ := inductionHypothesis ⟨keptRest, restIsKept⟩
      exact ⟨_, keepRows_cons_eq_ok_iff.mpr
        ⟨verdict, keptShuffled, invalidRest, answered, isKeptShuffled, rfl, rfl⟩⟩
  | swap first second rest =>
      obtain ⟨kept, isKept⟩ := isKept
      obtain ⟨verdictSecond, _, _, answeredSecond, restIsKept, -, rfl⟩ :=
        keepRows_cons_eq_ok_iff.mp isKept
      obtain ⟨verdictFirst, keptRest, invalidRest, answeredFirst, lastIsKept, -, rfl⟩ :=
        keepRows_cons_eq_ok_iff.mp restIsKept
      exact ⟨_, keepRows_cons_eq_ok_iff.mpr
        ⟨verdictFirst, _, _, answeredFirst, keepRows_cons_eq_ok_iff.mpr
          ⟨verdictSecond, keptRest, invalidRest, answeredSecond, lastIsKept, rfl, rfl⟩, rfl,
          Nat.add_left_comm ..⟩⟩
  | trans perm permNext inductionHypothesis inductionHypothesisNext =>
      exact inductionHypothesisNext (inductionHypothesis isKept)

/-- Rows that pass two tests are those that pass the second one among those that pass the first. -/
theorem keepRows_andThen_eq_ok_iff
    {first second : Row → Outcome Verdict}
    {rows kept : List Row}
    {invalidPatterns : Nat} :
    keepRows (fun row => Logic.all.andThen (first row) (second row)) rows =
        .ok (kept, invalidPatterns) ↔
      ∃ keptFirst invalidFirst invalidSecond,
        keepRows first rows = .ok (keptFirst, invalidFirst) ∧
          keepRows second keptFirst = .ok (kept, invalidSecond) ∧
            invalidPatterns = invalidFirst + invalidSecond := by
  induction rows generalizing kept invalidPatterns with
  | nil =>
      constructor
      · rintro ⟨⟩
        exact ⟨[], 0, 0, rfl, rfl, rfl⟩
      · rintro ⟨_, _, _, ⟨⟩, ⟨⟩, rfl⟩
        rfl
  | cons row rest inductionHypothesis =>
      rw [keepRows_cons_eq_ok_iff]
      constructor
      · rintro ⟨verdict, keptRest, invalidRest, answered, restIsKept, rfl, rfl⟩
        obtain ⟨keptFirst, invalidFirst, invalidSecond, isFirst, isSecond, rfl⟩ :=
          inductionHypothesis.mp restIsKept
        rcases Logic.all_andThen_eq_ok_iff.mp answered with
          ⟨answeredFirst, fails⟩ |
            ⟨verdictFirst, verdictSecond, answeredFirst, passes, answeredSecond, rfl⟩
        · refine ⟨keptFirst, _, invalidSecond, keepRows_cons_eq_ok_iff.mpr
            ⟨verdict, keptFirst, invalidFirst, answeredFirst, isFirst, ?_, rfl⟩, ?_, ?_⟩
          · simp [fails]
          · simpa [fails] using isSecond
          · rw [Nat.add_assoc]
        · refine ⟨row :: keptFirst, _, _, keepRows_cons_eq_ok_iff.mpr
            ⟨verdictFirst, keptFirst, invalidFirst, answeredFirst, isFirst, ?_, rfl⟩,
            keepRows_cons_eq_ok_iff.mpr
              ⟨verdictSecond, keptRest, invalidSecond, answeredSecond, isSecond, rfl, rfl⟩, ?_⟩
          · rw [if_pos passes]
          · exact Nat.add_add_add_comm ..
      · rintro ⟨keptFirst, invalidFirst, invalidSecond, isFirst, isSecond, rfl⟩
        obtain ⟨verdictFirst, keptRest, invalidRest, answeredFirst, restIsKept, rfl, rfl⟩ :=
          keepRows_cons_eq_ok_iff.mp isFirst
        cases passes : verdictFirst.holds with
        | false =>
            rw [passes] at isSecond
            refine ⟨verdictFirst, kept, _,
              Logic.all_andThen_eq_ok_iff.mpr (.inl ⟨answeredFirst, passes⟩),
              inductionHypothesis.mpr ⟨keptRest, invalidRest, _, restIsKept, isSecond, rfl⟩, ?_, ?_⟩
            · simp [passes]
            · rw [Nat.add_assoc]
        | true =>
            rw [passes] at isSecond
            obtain ⟨verdictSecond, keptToo, invalidToo, answeredSecond, keptIs, rfl, rfl⟩ :=
              keepRows_cons_eq_ok_iff.mp isSecond
            refine ⟨_, keptToo, _,
              Logic.all_andThen_eq_ok_iff.mpr
                (.inr ⟨verdictFirst, verdictSecond, answeredFirst, passes, answeredSecond, rfl⟩),
              inductionHypothesis.mpr ⟨keptRest, invalidRest, invalidToo, restIsKept, keptIs, rfl⟩,
              rfl, ?_⟩
            exact (Nat.add_add_add_comm ..).symm

end Rows

section Tables

variable {caseSensitive : Bool} {table : Table} {id : String}

theorem filterRows_eq_ok_iff
    {node : FilterNode}
    {result : Table}
    {invalidPatterns : Nat} :
    filterRows caseSensitive node table = .ok (result, invalidPatterns) ↔
      ∃ kept,
        keepRows (node.evaluate caseSensitive) table.rows = .ok (kept, invalidPatterns) ∧
          result = table.derive kept := by
  rw [filterRows, Outcome.bind_eq_ok_iff]
  constructor
  · rintro ⟨⟨kept, _⟩, isKept, ⟨⟩⟩
    exact ⟨kept, isKept, rfl⟩
  · rintro ⟨kept, isKept, rfl⟩
    exact ⟨_, isKept, rfl⟩

theorem filterRows_congr
    {node other : FilterNode}
    (same : ∀ row, node.evaluate caseSensitive row = other.evaluate caseSensitive row) :
    filterRows caseSensitive node table = filterRows caseSensitive other table := by
  have sameTest : node.evaluate caseSensitive = other.evaluate caseSensitive := funext same
  rw [filterRows, filterRows, sameTest]

/-- Filtering by a group that wants both members is filtering by the first and then the second. -/
theorem filterRows_all_pair_eq_ok_iff
    {first second : FilterNode}
    {result : Table}
    {invalidPatterns : Nat} :
    filterRows caseSensitive (.group id .all [first, second]) table =
        .ok (result, invalidPatterns) ↔
      ∃ kept invalidFirst invalidSecond,
        filterRows caseSensitive first table = .ok (kept, invalidFirst) ∧
          filterRows caseSensitive second kept = .ok (result, invalidSecond) ∧
            invalidPatterns = invalidFirst + invalidSecond := by
  simp only [filterRows_eq_ok_iff, FilterNode.evaluate_pair, keepRows_andThen_eq_ok_iff]
  constructor
  · rintro ⟨_, ⟨kept, invalidFirst, invalidSecond, isFirst, isSecond, rfl⟩, rfl⟩
    exact
      ⟨_, invalidFirst, invalidSecond, ⟨kept, isFirst, rfl⟩, ⟨_, isSecond, rfl⟩, rfl⟩
  · rintro ⟨_, invalidFirst, invalidSecond, ⟨kept, isFirst, rfl⟩, ⟨_, isSecond, rfl⟩, rfl⟩
    exact ⟨_, ⟨kept, invalidFirst, invalidSecond, isFirst, isSecond, rfl⟩, rfl⟩

/-- A group that wants one of two members keeps the rows that one of them keeps. -/
theorem filterRows_any_pair
    {first second : FilterNode}
    {keptFirst keptSecond : Table × Nat}
    (isFirst : filterRows caseSensitive first table = .ok keptFirst)
    (isSecond : filterRows caseSensitive second table = .ok keptSecond) :
    ∃ invalidPatterns,
      filterRows caseSensitive (.group id .any [first, second]) table =
        .ok
          (table.derive
            (table.rows.filter fun row => row ∈ keptFirst.1.rows ∨ row ∈ keptSecond.1.rows),
            invalidPatterns) := by
  have answered
      {node : FilterNode}
      {kept : Table × Nat}
      (isKept : filterRows caseSensitive node table = .ok kept) :
      ∀ row ∈ table.rows, ∃ verdict, node.evaluate caseSensitive row = .ok verdict := by
    obtain ⟨rows, isKept, -⟩ := filterRows_eq_ok_iff.mp isKept
    exact exists_keepRows_iff.mp ⟨_, isKept⟩
  have eitherAnswers :
      ∀ row ∈ table.rows, ∃ verdict,
        FilterNode.evaluate caseSensitive row (.group id .any [first, second]) = .ok verdict := by
    intro row member
    rw [FilterNode.evaluate_pair]
    exact Logic.exists_andThen (answered isFirst row member) (answered isSecond row member)
  obtain ⟨⟨kept, invalidPatterns⟩, isKept⟩ := exists_keepRows_iff.mpr eitherAnswers
  refine ⟨invalidPatterns, filterRows_eq_ok_iff.mpr ⟨kept, isKept, ?_⟩⟩
  rw [keepRows_eq_filter isKept, rows_of_filterRows_eq_ok isFirst,
    rows_of_filterRows_eq_ok isSecond]
  congr 1
  refine List.filter_congr fun row member => ?_
  rw [Bool.eq_iff_iff, FilterNode.isMet_any_iff]
  simp [member]

end Tables

/--
Filtering by a group of two that wants both is filtering by one after the other, and a group of two
that wants any keeps the rows that one of them keeps. At any depth of a filter the members of a
group can be put into another order, a nested group of the same logic that has members can give way
to them, and a group with one member can give way to that member, without changing which rows are
kept. The last two of these changes make no difference to how an evaluation fails either.
-/
theorem filters_follow_their_logic
    (caseSensitive : Bool)
    (table : Table) :
    (∀ (id : String) (first second : FilterNode) (result : Table) (invalidPatterns : Nat),
      filterRows caseSensitive (.group id .all [first, second]) table =
          .ok (result, invalidPatterns) ↔
        ∃ kept invalidFirst invalidSecond,
          filterRows caseSensitive first table = .ok (kept, invalidFirst) ∧
            filterRows caseSensitive second kept = .ok (result, invalidSecond) ∧
              invalidPatterns = invalidFirst + invalidSecond) ∧
      (∀ (id : String) (first second : FilterNode) (keptFirst keptSecond : Table × Nat),
        filterRows caseSensitive first table = .ok keptFirst →
          filterRows caseSensitive second table = .ok keptSecond →
            ∃ invalidPatterns,
              filterRows caseSensitive (.group id .any [first, second]) table =
                .ok
                  (table.derive
                    (table.rows.filter fun row =>
                      row ∈ keptFirst.1.rows ∨ row ∈ keptSecond.1.rows),
                    invalidPatterns)) ∧
      (∀ (place : FilterNode.Place) (id : String) (logic : Logic)
          (members shuffled : List FilterNode) (kept keptToo : Table × Nat),
        members.Perm shuffled →
          filterRows caseSensitive (place.fill (.group id logic members)) table = .ok kept →
            filterRows caseSensitive (place.fill (.group id logic shuffled)) table = .ok keptToo →
              kept.1 = keptToo.1) ∧
      (∀ (place : FilterNode.Place) (id inner : String) (logic : Logic)
          (left nested right : List FilterNode),
        nested ≠ [] →
          filterRows caseSensitive
              (place.fill (.group id logic (left ++ .group inner logic nested :: right))) table =
            filterRows caseSensitive
              (place.fill (.group id logic (left ++ nested ++ right))) table) ∧
      ∀ (place : FilterNode.Place) (id : String) (logic : Logic) (child : FilterNode),
        filterRows caseSensitive (place.fill (.group id logic [child])) table =
          filterRows caseSensitive (place.fill child) table := by
  refine ⟨fun id first second result invalidPatterns => filterRows_all_pair_eq_ok_iff,
    fun id first second keptFirst keptSecond => filterRows_any_pair, ?_, ?_, ?_⟩
  · rintro place id logic members shuffled ⟨kept, _⟩ ⟨keptToo, _⟩ perm filtered filteredToo
    obtain ⟨rows, isKept, rfl⟩ := filterRows_eq_ok_iff.mp filtered
    obtain ⟨rowsToo, isKeptToo, rfl⟩ := filterRows_eq_ok_iff.mp filteredToo
    simp only [keepRows_eq_filter isKept, keepRows_eq_filter isKeptToo,
      FilterNode.isMet_fill_of_perm perm place]
  · intro place id inner logic left nested right notEmpty
    exact filterRows_congr fun row =>
      FilterNode.evaluate_fill (FilterNode.evaluate_unnested notEmpty left right) place
  · intro place id logic child
    exact filterRows_congr fun row =>
      FilterNode.evaluate_fill (FilterNode.evaluate_singleton child) place

namespace FilterNode.Sample

/-- The states of the orders stand in a group of their own next to the city. -/
def aroundStates : Place :=
  [⟨"root", .all, [.condition { id := "city", field := some "city", value := .text "Oslo" }], []⟩]

/-- One state or another, one state before another, and states in a further group. -/
theorem filters_by_states :
    filterRows false (hasState "paid") ledger = .ok (ledger.derive [order "Oslo" "paid"], 0) ∧
      filterRows false (hasState "sent") ledger = .ok (ledger.derive [order "Rome" "sent"], 0) ∧
      (∃ invalidPatterns,
        filterRows false (.group "states" .any [hasState "paid", hasState "sent"]) ledger =
          .ok
            (ledger.derive
              (ledger.rows.filter fun row =>
                row ∈ [order "Oslo" "paid"] ∨ row ∈ [order "Rome" "sent"]),
              invalidPatterns)) ∧
      [hasState "paid", hasState "sent"].Perm [hasState "sent", hasState "paid"] ∧
      (∃ kept keptToo,
        filterRows false orders ledger = .ok kept ∧
          filterRows false
              (aroundStates.fill (.group "states" .any [hasState "sent", hasState "paid"])) ledger =
            .ok keptToo ∧
          kept.1 = keptToo.1) ∧
      [hasState "sent"] ≠ [] ∧
      filterRows false
          (aroundStates.fill
            (.group "states" .any [hasState "paid", .group "inner" .any [hasState "sent"]]))
          ledger =
        filterRows false orders ledger := by
  obtain ⟨-, anyOfTwo, reordered, unnested, -⟩ := filters_follow_their_logic false ledger
  have paid :
      filterRows false (hasState "paid") ledger = .ok (ledger.derive [order "Oslo" "paid"], 0) :=
    rfl
  have sent :
      filterRows false (hasState "sent") ledger = .ok (ledger.derive [order "Rome" "sent"], 0) :=
    rfl
  have swapped : [hasState "paid", hasState "sent"].Perm [hasState "sent", hasState "paid"] :=
    .swap ..
  have notEmpty : [hasState "sent"] ≠ [] := List.cons_ne_nil _ []
  exact
    ⟨paid, sent, anyOfTwo "states" _ _ _ _ paid sent, swapped,
      ⟨_, _, rfl, rfl, reordered aroundStates "states" .any _ _ _ _ swapped rfl rfl⟩, notEmpty,
      unnested aroundStates "states" "inner" .any [hasState "paid"] _ [] notEmpty⟩

end FilterNode.Sample

end Tabular
