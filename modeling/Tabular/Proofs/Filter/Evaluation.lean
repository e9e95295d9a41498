import Tabular.Filter.Evaluation
import Tabular.Proofs.Number.Range
import Tabular.Proofs.Outcome

namespace Tabular

/-!
# What evaluating a filter comes to

The answer that a filter stands for, without the order in which it is worked out: a condition whose
sides do not read as what its operator compares is not met. An evaluation gives this answer unless
it gets to a condition that stops it, and these are the conditions that compare an integer out of
range as a number and those whose pattern is refused for more than its form. The conditions that an
evaluation gets to are those that the members before them leave open.
-/

/-! ## What conditions and trees ask -/

namespace Cell

/-- The number that a cell is compared as; an integer out of range is none. -/
def comparedNumber? (cell : Cell) : Option Binary64 :=
  match cell.number? with
  | .ok number => number
  | .error _ => none

/-- An integer that has no nearest finite number. -/
def IsBeyond : Cell → Prop
  | .int value => Binary64.intLimit ≤ value.natAbs
  | _ => False

end Cell

/-- A cell passes an operator against a value; what does not read as its operand does not pass. -/
def Operator.passes (operator : Operator) (caseSensitive : Bool) (cell value : Cell) : Bool :=
  match operator with
  | .isEmpty => cell.isBlank
  | .isNotEmpty => !cell.isBlank
  | .onText .matchesPattern =>
      match Pattern.read { ignoreCase := !caseSensitive } value.display with
      | .ok pattern => pattern.search cell.display
      | .error _ => false
  | .onText operator =>
      operator.holds caseSensitive (folded caseSensitive cell.display)
        (folded caseSensitive value.display) value.display
  | .onNumber operator =>
      match cell.comparedNumber?, value.comparedNumber? with
      | some left, some right => operator.holds left right
      | _, _ => false
  | .onDate operator =>
      match cell.instant?, value.instant? with
      | some left, some right => operator.holds left right
      | _, _ => false

namespace Condition

/-- The operator that a condition names, if there is one of that name. -/
def operator? (condition : Condition) : Option Operator :=
  condition.operator.bind Operator.ofName?

/-- A row meets a condition. Only presence is asked for before there is a column. -/
def isMet (condition : Condition) (caseSensitive : Bool) (row : Row) : Bool :=
  match condition.operator? with
  | some operator =>
      (condition.isUnfinished && !Operator.forPresence.contains operator) ||
        operator.passes caseSensitive (condition.cellOf row) condition.value
  | none => condition.isUnfinished

/-- Evaluating a condition fails. -/
inductive Stops (caseSensitive : Bool) (row : Row) (condition : Condition) : Prop
  /-- A side of a comparison of numbers is an integer out of range. -/
  | number
      (operator : NumberOperator)
      (asked : condition.operator? = some (.onNumber operator))
      (finished : condition.isUnfinished = false)
      (beyond : (condition.cellOf row).IsBeyond ∨ condition.value.IsBeyond)
  /-- A pattern counts more repetitions than are read, or asks for flags that exclude each other. -/
  | pattern
      (fault : Pattern.PatternFault)
      (asked : condition.operator? = some (.onText .matchesPattern))
      (finished : condition.isUnfinished = false)
      (refused :
        Pattern.read { ignoreCase := !caseSensitive } condition.value.display = .error fault)
      (notForm : fault ≠ .malformed)

end Condition

/-- The answer of a group is still open after a member with the given answer. -/
def Logic.isOpenAfter : Logic → Bool → Bool
  | .all, met => met
  | .any, met => !met

/-- The answer of a group whose members have the given answers. -/
def Logic.combine : Logic → List Bool → Bool
  | _, [] => true
  | .all, answers => !answers.contains false
  | .any, answers => answers.contains true

namespace FilterNode

mutual

/-- A tree is met when its conditions are met as a test says. -/
def isMet (test : Condition → Bool) : FilterNode → Bool
  | .condition leaf => test leaf
  | .group _ logic children => logic.combine (answers test children)

/-- Whether each of several trees is met. -/
def answers (test : Condition → Bool) : List FilterNode → List Bool
  | [] => []
  | child :: rest => isMet test child :: answers test rest

end

mutual

/-- Evaluating a tree gets to a condition. -/
inductive Reaches (test : Condition → Bool) : FilterNode → Condition → Prop
  | leaf
      {leaf : Condition} :
      Reaches test (.condition leaf) leaf
  | group
      {id : String}
      {logic : Logic}
      {children : List FilterNode}
      {leaf : Condition}
      (among : ReachesAmong test logic children leaf) :
      Reaches test (.group id logic children) leaf

/-- Evaluating the members of a group in order gets to a condition. -/
inductive ReachesAmong (test : Condition → Bool) :
    Logic → List FilterNode → Condition → Prop
  | first
      {logic : Logic}
      {child : FilterNode}
      {rest : List FilterNode}
      {leaf : Condition}
      (inside : Reaches test child leaf) :
      ReachesAmong test logic (child :: rest) leaf
  | later
      {logic : Logic}
      {child : FilterNode}
      {rest : List FilterNode}
      {leaf : Condition}
      (isOpen : logic.isOpenAfter (child.isMet test) = true)
      (among : ReachesAmong test logic rest leaf) :
      ReachesAmong test logic (child :: rest) leaf

end

end FilterNode

/-! ## How an evaluation ends -/

/-- An evaluation answers with what is asked for, unless something stops it. -/
inductive Verdict.Settles (outcome : Outcome Verdict) (met : Bool) (stopped : Prop) : Prop
  | answer
      (verdict : Verdict)
      (answered : outcome = .ok verdict)
      (same : verdict.holds = met)
      (free : ¬stopped)
  | fault
      (fault : Fault)
      (failed : outcome = .error fault)
      (stops : stopped)

namespace Cell

theorem number?_eq_error_iff
    {cell : Cell}
    {fault : Fault} :
    cell.number? = .error fault ↔ fault = .overflow ∧ cell.IsBeyond := by
  cases cell with
  | int value =>
      rw [IsBeyond, ← Amount.realOfInt_eq_error_iff, number?]
      cases Amount.realOfInt value <;> simp [Except.map]
  | _ =>
      simp [number?, IsBeyond]

/-- A cell is compared as its number unless it is beyond the numbers. -/
theorem number?_cases
    (cell : Cell) :
    (∃ number, cell.number? = .ok number ∧ cell.comparedNumber? = number ∧ ¬cell.IsBeyond) ∨
      (∃ fault, cell.number? = .error fault) ∧ cell.comparedNumber? = none ∧ cell.IsBeyond := by
  unfold comparedNumber?
  cases found : cell.number? with
  | ok number =>
      refine .inl ⟨number, rfl, rfl, fun beyond => ?_⟩
      simp [number?_eq_error_iff.mpr ⟨rfl, beyond⟩] at found
  | error fault =>
      exact .inr ⟨⟨fault, rfl⟩, rfl, (number?_eq_error_iff.mp found).2⟩

end Cell

theorem NumberOperator.compare_settles
    (operator : NumberOperator)
    (caseSensitive : Bool)
    (cell value : Cell) :
    Verdict.Settles (operator.compare cell value)
      ((Operator.onNumber operator).passes caseSensitive cell value)
      (cell.IsBeyond ∨ value.IsBeyond) := by
  unfold NumberOperator.compare
  obtain ⟨left, leftRead, leftCompared, leftInRange⟩ | ⟨⟨fault, leftFails⟩, -, leftBeyond⟩ :=
    cell.number?_cases
  · obtain ⟨right, rightRead, rightCompared, rightInRange⟩ |
        ⟨⟨fault, rightFails⟩, -, rightBeyond⟩ :=
      value.number?_cases
    · simp only [leftRead, rightRead, Operator.passes, leftCompared, rightCompared]
      cases left <;> cases right <;>
        exact .answer _ rfl rfl (by simp [leftInRange, rightInRange])
    · rw [leftRead, rightFails]
      exact .fault fault rfl (.inr rightBeyond)
  · rw [leftFails]
    exact .fault fault rfl (.inl leftBeyond)

theorem matchesPattern_settles
    (caseSensitive : Bool)
    (cell value : Cell) :
    Verdict.Settles (matchesPattern caseSensitive cell.display value.display)
      ((Operator.onText .matchesPattern).passes caseSensitive cell value)
      (∃ fault,
        Pattern.read { ignoreCase := !caseSensitive } value.display = .error fault ∧
          fault ≠ .malformed) := by
  unfold matchesPattern Operator.passes
  cases Pattern.read { ignoreCase := !caseSensitive } value.display with
  | ok pattern =>
      exact .answer _ rfl rfl (by simp)
  | error fault =>
      cases fault with
      | malformed => exact .answer _ rfl rfl (by simp)
      | countTooLarge => exact .fault _ rfl ⟨_, rfl, by decide⟩
      | countTooLong => exact .fault _ rfl ⟨_, rfl, by decide⟩
      | conflictingFlags => exact .fault _ rfl ⟨_, rfl, by decide⟩

theorem Verdict.Settles.of_iff
    {outcome : Outcome Verdict}
    {met : Bool}
    {stopped stoppedToo : Prop}
    (settles : Settles outcome met stopped)
    (same : stopped ↔ stoppedToo) :
    Settles outcome met stoppedToo :=
  propext same ▸ settles

namespace Condition

variable {condition : Condition} {caseSensitive : Bool} {row : Row}

theorem stops_of_number_iff
    {operator : NumberOperator}
    (asked : condition.operator? = some (.onNumber operator))
    (finished : condition.isUnfinished = false) :
    condition.Stops caseSensitive row ↔
      (condition.cellOf row).IsBeyond ∨ condition.value.IsBeyond := by
  constructor
  · rintro (⟨_, _, _, beyond⟩ | ⟨_, askedPattern, -, -, -⟩)
    · exact beyond
    · simp [asked] at askedPattern
  · exact .number operator asked finished

theorem stops_of_pattern_iff
    (asked : condition.operator? = some (.onText .matchesPattern))
    (finished : condition.isUnfinished = false) :
    condition.Stops caseSensitive row ↔
      ∃ fault,
        Pattern.read { ignoreCase := !caseSensitive } condition.value.display = .error fault ∧
          fault ≠ .malformed := by
  constructor
  · rintro (⟨_, askedNumber, _, _⟩ | ⟨fault, -, -, refused, notForm⟩)
    · simp [asked] at askedNumber
    · exact ⟨fault, refused, notForm⟩
  · rintro ⟨fault, refused, notForm⟩
    exact .pattern fault asked finished refused notForm

/-- A condition that is unfinished, or asks neither for a number nor for a pattern, never stops. -/
theorem not_stops
    (other :
      condition.isUnfinished = false →
        (∀ operator, condition.operator? ≠ some (.onNumber operator)) ∧
          condition.operator? ≠ some (.onText .matchesPattern)) :
    ¬condition.Stops caseSensitive row := by
  rintro (⟨operator, asked, finished, -⟩ | ⟨_, asked, finished, -, -⟩)
  · exact (other finished).1 operator asked
  · exact (other finished).2 asked

/-- Evaluating a condition tells whether it is met unless the condition stops it. -/
theorem evaluate_settles
    (condition : Condition)
    (caseSensitive : Bool)
    (row : Row) :
    Verdict.Settles (condition.evaluate caseSensitive row) (condition.isMet caseSensitive row)
      (condition.Stops caseSensitive row) := by
  unfold evaluate isMet
  rw [← operator?]
  cases unfinished : condition.isUnfinished with
  | true =>
      have free : ¬condition.Stops caseSensitive row := not_stops (by simp [unfinished])
      rcases condition.operator? with _ | _ | _ | _ | _ | _ <;>
        exact .answer _ rfl (by simp [Operator.passes, Operator.forPresence]) free
  | false =>
      cases asked : condition.operator? with
      | none =>
          exact .answer _ rfl rfl (not_stops (by simp [asked]))
      | some operator =>
          simp only [Bool.false_and, Bool.false_or]
          cases operator with
          | isEmpty =>
              exact .answer _ rfl rfl (not_stops (by simp [asked]))
          | isNotEmpty =>
              exact .answer _ rfl rfl (not_stops (by simp [asked]))
          | onText operator =>
              cases operator with
              | matchesPattern =>
                  exact (matchesPattern_settles caseSensitive _ _).of_iff
                    (stops_of_pattern_iff asked unfinished).symm
              | _ =>
                  exact .answer _ rfl rfl (not_stops (by simp [asked]))
          | onNumber operator =>
              exact (operator.compare_settles caseSensitive _ _).of_iff
                (stops_of_number_iff asked unfinished).symm
          | onDate operator =>
              refine .answer _ rfl ?_ (not_stops (by simp [asked]))
              unfold DateOperator.compare Operator.passes
              split <;> simp_all

end Condition

/-! ## Members of a group -/

theorem Logic.all_cons
    (met : Bool)
    (answers : List Bool) :
    (!(met :: answers).contains false) =
      if Logic.all.isOpenAfter met then !answers.contains false else met := by
  cases met <;> simp [isOpenAfter]

theorem Logic.any_cons
    (met : Bool)
    (answers : List Bool) :
    (met :: answers).contains true =
      if Logic.any.isOpenAfter met then answers.contains true else met := by
  cases met <;> simp [isOpenAfter]

namespace FilterNode

/-- The conditions that members are evaluated to are those of the first, and then of the others. -/
theorem exists_reachesAmong_cons_iff
    {test : Condition → Bool}
    {logic : Logic}
    {child : FilterNode}
    {rest : List FilterNode}
    {stops : Condition → Prop} :
    (∃ leaf, ReachesAmong test logic (child :: rest) leaf ∧ stops leaf) ↔
      (∃ leaf, Reaches test child leaf ∧ stops leaf) ∨
        logic.isOpenAfter (child.isMet test) = true ∧
          ∃ leaf, ReachesAmong test logic rest leaf ∧ stops leaf := by
  constructor
  · rintro ⟨leaf, inside | ⟨isOpen, among⟩, stopped⟩
    · exact .inl ⟨leaf, inside, stopped⟩
    · exact .inr ⟨isOpen, leaf, among, stopped⟩
  · rintro (⟨leaf, inside, stopped⟩ | ⟨isOpen, leaf, among, stopped⟩)
    · exact ⟨leaf, .first inside, stopped⟩
    · exact ⟨leaf, .later isOpen among, stopped⟩

theorem exists_reaches_group_iff
    {test : Condition → Bool}
    {id : String}
    {logic : Logic}
    {children : List FilterNode}
    {stops : Condition → Prop} :
    (∃ leaf, Reaches test (.group id logic children) leaf ∧ stops leaf) ↔
      ∃ leaf, ReachesAmong test logic children leaf ∧ stops leaf := by
  constructor
  · rintro ⟨leaf, reached, stopped⟩
    cases reached with
    | group among => exact ⟨leaf, among, stopped⟩
  · rintro ⟨leaf, among, stopped⟩
    exact ⟨leaf, .group among, stopped⟩

theorem exists_reaches_leaf_iff
    {test : Condition → Bool}
    {condition : Condition}
    {stops : Condition → Prop} :
    (∃ leaf, Reaches test (.condition condition) leaf ∧ stops leaf) ↔ stops condition := by
  constructor
  · rintro ⟨leaf, ⟨⟩, stopped⟩
    exact stopped
  · exact fun stopped => ⟨condition, .leaf, stopped⟩

theorem not_exists_reachesAmong_nil
    {test : Condition → Bool}
    {logic : Logic}
    {stops : Condition → Prop} :
    ¬∃ leaf, ReachesAmong test logic [] leaf ∧ stops leaf := by
  rintro ⟨leaf, ⟨⟩, stopped⟩

end FilterNode

/-- A member of a group, and then the others when the answer is still open. -/
theorem Verdict.Settles.thenOthers
    {first rest : Outcome Verdict}
    {met metToo : Bool}
    {stopped stoppedToo : Prop}
    (isOpenAfter : Bool → Bool)
    (member : Settles first met stopped)
    (others : Settles rest metToo stoppedToo) :
    Settles
      (do
        let verdict ← first
        if isOpenAfter verdict.holds then return verdict.after (← rest)
        else return verdict)
      (if isOpenAfter met then metToo else met)
      (stopped ∨ isOpenAfter met = true ∧ stoppedToo) := by
  rcases member with ⟨verdict, answered, rfl, free⟩ | ⟨fault, failed, stops⟩
  · rw [answered]
    cases isOpen : isOpenAfter verdict.holds with
    | false =>
        exact .answer verdict (if_neg (by simp [isOpen])) (by simp) (by simp [free])
    | true =>
        rcases others with ⟨other, answered, rfl, freeToo⟩ | ⟨fault, failed, stops⟩
        · rw [answered]
          exact .answer (verdict.after other) (if_pos isOpen) (by simp [Verdict.after])
            (by simp [free, freeToo])
        · rw [failed]
          exact .fault fault (if_pos isOpen) (.inr ⟨rfl, stops⟩)
  · rw [failed]
    exact .fault fault rfl (.inl stops)

namespace FilterNode

variable (caseSensitive : Bool) (row : Row)

theorem evaluate_all
    {id : String}
    {child : FilterNode}
    {rest : List FilterNode} :
    evaluate caseSensitive row (.group id .all (child :: rest)) =
      evaluateAll caseSensitive row (child :: rest) := by
  simp [evaluate]

theorem evaluate_any
    {id : String}
    {child : FilterNode}
    {rest : List FilterNode} :
    evaluate caseSensitive row (.group id .any (child :: rest)) =
      evaluateAny caseSensitive row (child :: rest) := by
  simp [evaluate]

theorem evaluateAny_cons
    {child : FilterNode}
    {rest : List FilterNode} :
    evaluateAny caseSensitive row (child :: rest) = do
      let verdict ← evaluate caseSensitive row child
      if !verdict.holds then return verdict.after (← evaluateAny caseSensitive row rest)
      else return verdict := by
  rw [evaluateAny]
  congr 1
  funext verdict
  cases verdict.holds <;> rfl

mutual

/-- Evaluating a tree tells whether it is met unless it gets to a condition that stops it. -/
theorem evaluate_settles :
    ∀ node : FilterNode,
      Verdict.Settles (evaluate caseSensitive row node)
        (node.isMet (·.isMet caseSensitive row))
        (∃ leaf, Reaches (·.isMet caseSensitive row) node leaf ∧ leaf.Stops caseSensitive row)
  | .condition leaf => by
      rw [evaluate, isMet, exists_reaches_leaf_iff]
      exact leaf.evaluate_settles caseSensitive row
  | .group id logic [] => by
      rw [evaluate, isMet, answers, exists_reaches_group_iff]
      exact .answer _ rfl (by cases logic <;> rfl) not_exists_reachesAmong_nil
  | .group id .all (child :: rest) => by
      rw [evaluate_all, isMet, exists_reaches_group_iff]
      exact evaluateAll_settles (child :: rest)
  | .group id .any (child :: rest) => by
      rw [evaluate_any, isMet, exists_reaches_group_iff]
      exact evaluateAny_settles (child :: rest)

theorem evaluateAll_settles :
    ∀ nodes : List FilterNode,
      Verdict.Settles (evaluateAll caseSensitive row nodes)
        (!(answers (·.isMet caseSensitive row) nodes).contains false)
        (∃ leaf, ReachesAmong (·.isMet caseSensitive row) .all nodes leaf ∧
          leaf.Stops caseSensitive row)
  | [] => .answer _ rfl rfl not_exists_reachesAmong_nil
  | child :: rest => by
      rw [evaluateAll, exists_reachesAmong_cons_iff, answers, Logic.all_cons]
      exact (evaluate_settles child).thenOthers Logic.all.isOpenAfter
        (evaluateAll_settles rest)

theorem evaluateAny_settles :
    ∀ nodes : List FilterNode,
      Verdict.Settles (evaluateAny caseSensitive row nodes)
        ((answers (·.isMet caseSensitive row) nodes).contains true)
        (∃ leaf, ReachesAmong (·.isMet caseSensitive row) .any nodes leaf ∧
          leaf.Stops caseSensitive row)
  | [] => .answer _ rfl rfl not_exists_reachesAmong_nil
  | child :: rest => by
      rw [evaluateAny_cons, exists_reachesAmong_cons_iff, answers, Logic.any_cons]
      exact (evaluate_settles child).thenOthers Logic.any.isOpenAfter
        (evaluateAny_settles rest)

end

end FilterNode

/--
Evaluating a filter fails exactly when it gets to a condition that stops it, and whenever it
answers, the answer is what the filter stands for.
-/
theorem evaluation_fails_iff_stopped
    (caseSensitive : Bool)
    (row : Row)
    (node : FilterNode) :
    ((∃ fault, node.evaluate caseSensitive row = .error fault) ↔
        ∃ leaf,
          node.Reaches (·.isMet caseSensitive row) leaf ∧
            leaf.Stops caseSensitive row) ∧
      ∀ verdict, node.evaluate caseSensitive row = .ok verdict →
        verdict.holds = node.isMet (·.isMet caseSensitive row) := by
  rcases node.evaluate_settles caseSensitive row with
    ⟨verdict, answered, same, free⟩ | ⟨fault, failed, stops⟩
  · rw [answered]
    refine ⟨iff_of_false (by simp) free, ?_⟩
    rintro _ ⟨⟩
    exact same
  · rw [failed]
    exact ⟨iff_of_true ⟨fault, rfl⟩ stops, by simp⟩

/-- A line with an amount of four hundred zeros. -/
def hugeAmount : Row := .ofList [("amount", .int (Int.pow 10 400))]

/-- Such an amount cannot be compared with five. -/
theorem evaluation_of_hugeAmount_fails :
    ∃ fault,
      (FilterNode.condition
          { id := "c", field := some "amount", operator := some "=", value := .text "5" }).evaluate
        false hugeAmount = .error fault := by
  have beyond : (hugeAmount.cell "amount").IsBeyond := by
    change Binary64.intLimit ≤ (Int.pow 10 400).natAbs
    decide +kernel
  exact
    (evaluation_fails_iff_stopped false hugeAmount _).1.mpr
      ⟨_, .leaf, .number .equal (by decide) (by decide) (.inl beyond)⟩

end Tabular
