import Tabular.Proofs.Filter.Composition
import Tabular.Proofs.Filter.Conditions
import Tabular.Proofs.Filter.Validation

namespace Tabular

/-!
# What conditions and groups answer

A condition with a column answers what its operator says of the cell and the value. Comparisons of
texts, but for patterns, and comparisons of instants always answer, and so do questions for
presence; comparisons of numbers answer when both sides can be read. A group whose members all
answer answers as its logic combines their answers.
-/

/-! ## Conditions -/

namespace Operator

/-- The name of an operator is no ASCII spelling of another one. -/
theorem normalizeName_name
    (operator : Operator) :
    normalizeName operator.name = operator.name := by
  have plain : ∀ operator ∈ all, normalizeName operator.name = operator.name := by
    decide +kernel
  exact plain operator (mem_all operator)

theorem ofName?_name
    (operator : Operator) :
    ofName? operator.name = some operator :=
  ofName?_eq_some_iff.mpr operator.normalizeName_name.symm

end Operator

namespace Condition

variable {condition : Condition} {caseSensitive : Bool} {row : Row}

/-- Comparisons of texts answer; a condition without a column does not restrict. -/
theorem evaluate_of_onText
    {operator : TextOperator}
    (asked : condition.operator? = some (.onText operator))
    (noPattern : operator ≠ .matchesPattern) :
    condition.evaluate caseSensitive row =
      .ok
        { holds :=
            condition.isUnfinished ||
              operator.holds caseSensitive (folded caseSensitive (condition.cellOf row).display)
                (folded caseSensitive condition.value.display) condition.value.display } := by
  rw [evaluate, ← operator?, asked]
  cases condition.isUnfinished with
  | true =>
      rfl
  | false =>
      cases operator with
      | matchesPattern => exact absurd rfl noPattern
      | _ => rfl

theorem evaluate_of_onNumber
    {operator : NumberOperator}
    (asked : condition.operator? = some (.onNumber operator))
    (finished : condition.isUnfinished = false) :
    condition.evaluate caseSensitive row =
      operator.compare (condition.cellOf row) condition.value := by
  rw [evaluate, ← operator?, asked, finished]
  rfl

theorem evaluate_of_unfinished
    {operator : NumberOperator}
    (asked : condition.operator? = some (.onNumber operator))
    (unfinished : condition.isUnfinished = true) :
    condition.evaluate caseSensitive row = .ok { holds := true } := by
  rw [evaluate, ← operator?, asked, unfinished]
  rfl

theorem evaluate_of_onDate
    {operator : DateOperator}
    (asked : condition.operator? = some (.onDate operator))
    (finished : condition.isUnfinished = false) :
    condition.evaluate caseSensitive row =
      .ok (operator.compare (condition.cellOf row) condition.value) := by
  rw [evaluate, ← operator?, asked, finished]
  rfl

theorem evaluate_of_isEmpty
    (asked : condition.operator? = some .isEmpty) :
    condition.evaluate caseSensitive row = .ok { holds := (condition.cellOf row).isBlank } := by
  rw [evaluate, ← operator?, asked]

theorem evaluate_of_isNotEmpty
    (asked : condition.operator? = some .isNotEmpty) :
    condition.evaluate caseSensitive row = .ok { holds := !(condition.cellOf row).isBlank } := by
  rw [evaluate, ← operator?, asked]

end Condition

/-! ## Groups -/

namespace Logic

/-- The combined answers of some members, and of none. -/
def combineMembers : Logic → List Bool → Bool
  | .all, answers => answers.all id
  | .any, answers => answers.any id

theorem andThen_of_answers
    (logic : Logic)
    (met : Bool)
    (answers : List Bool) :
    logic.andThen (.ok { holds := met }) (.ok { holds := logic.combineMembers answers }) =
      .ok { holds := logic.combineMembers (met :: answers) } := by
  cases logic <;> cases met <;> rfl

end Logic

namespace FilterNode

variable {caseSensitive : Bool} {row : Row} {members : List FilterNode} {answers : List Bool}

/-- Members that all answer are joined by their logic. -/
theorem evaluateMembers_of_answers
    (logic : Logic)
    (answered :
      List.Forall₂ (fun member met => evaluate caseSensitive row member = .ok { holds := met })
        members answers) :
    evaluateMembers caseSensitive row logic members =
      .ok { holds := logic.combineMembers answers } := by
  induction answered with
  | nil =>
      rw [evaluateMembers_nil]
      cases logic <;> rfl
  | cons answeredFirst _ inductionHypothesis =>
      rw [evaluateMembers_cons, answeredFirst, inductionHypothesis, Logic.andThen_of_answers]

/-- A group with members that all answer answers. -/
theorem evaluate_group_of_answers
    {id : String}
    (logic : Logic)
    (notEmpty : members ≠ [])
    (answered :
      List.Forall₂ (fun member met => evaluate caseSensitive row member = .ok { holds := met })
        members answers) :
    evaluate caseSensitive row (.group id logic members) =
      .ok { holds := logic.combineMembers answers } := by
  rw [evaluate_group notEmpty, evaluateMembers_of_answers logic answered]

/-! ## Rows that conditions do not tell apart -/

mutual

/-- Rows that all conditions of a tree answer alike are answered alike by the tree. -/
theorem evaluate_of_same_answers
    {other : Row} :
    ∀ node : FilterNode,
      (∀ condition ∈ conditions node,
        condition.evaluate caseSensitive row = condition.evaluate caseSensitive other) →
      evaluate caseSensitive row node = evaluate caseSensitive other node
  | .condition leaf, same => by
      simpa only [evaluate] using same leaf List.mem_cons_self
  | .group id logic children, same => by
      by_cases isEmpty : children = []
      · subst isEmpty
        rw [evaluate, evaluate]
      · rw [evaluate_group isEmpty, evaluate_group isEmpty]
        exact evaluateMembers_of_same_answers logic children same

theorem evaluateMembers_of_same_answers
    {other : Row}
    (logic : Logic) :
    ∀ children : List FilterNode,
      (∀ condition ∈ conditionsAmong children,
        condition.evaluate caseSensitive row = condition.evaluate caseSensitive other) →
      evaluateMembers caseSensitive row logic children =
        evaluateMembers caseSensitive other logic children
  | [], _ => by
      rw [evaluateMembers_nil, evaluateMembers_nil]
  | child :: rest, same => by
      obtain ⟨sameChild, sameRest⟩ := List.forall_mem_append.mp same
      rw [evaluateMembers_cons, evaluateMembers_cons,
        evaluate_of_same_answers child sameChild,
        evaluateMembers_of_same_answers logic rest sameRest]

end

end FilterNode

/-- Of changed rows that the test does not tell from the old ones the same are kept. -/
theorem keepRows_map
    {test : Row → Outcome Verdict}
    {change : Row → Row}
    {rows : List Row}
    (same : ∀ row ∈ rows, test (change row) = test row) :
    keepRows test (rows.map change) =
      (keepRows test rows).map fun found => (found.1.map change, found.2) := by
  induction rows with
  | nil =>
      rfl
  | cons row rest inductionHypothesis =>
      obtain ⟨sameFirst, sameRest⟩ := List.forall_mem_cons.mp same
      rw [List.map_cons, keepRows, keepRows, sameFirst, inductionHypothesis sameRest]
      cases test row with
      | error fault =>
          rfl
      | ok verdict =>
          cases keepRows test rest with
          | error fault =>
              rfl
          | ok found =>
              cases holds : verdict.holds <;> simp [holds, Except.map, bind, Except.bind, pure,
                Except.pure]

/-- A test that answers for all rows, and meets no pattern on the way, keeps those that pass it. -/
theorem keepRows_of_answers
    {test : Row → Outcome Verdict}
    {met : Row → Bool}
    {rows : List Row}
    (answered : ∀ row ∈ rows, test row = .ok { holds := met row }) :
    keepRows test rows = .ok (rows.filter met, 0) := by
  induction rows with
  | nil =>
      rfl
  | cons row rest inductionHypothesis =>
      obtain ⟨answeredFirst, answeredRest⟩ := List.forall_mem_cons.mp answered
      exact keepRows_cons_eq_ok_iff.mpr
        ⟨_, _, _, answeredFirst, inductionHypothesis answeredRest, List.filter_cons, rfl⟩

end Tabular
