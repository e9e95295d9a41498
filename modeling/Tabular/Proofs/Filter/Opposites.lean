import Tabular.Proofs.Assoc
import Tabular.Proofs.Cell.Reading
import Tabular.Proofs.Filter.Answers

namespace Tabular

/-!
# How the operators are related

Some operators deny others: of a comparison of texts and its denial one matches, and so it is with
questions for presence. Comparisons of numbers and of instants are not like that. They match only
when both sides can be read as what they compare, so that none of them matches a cell that cannot be
read. Between two numbers there is one of the three relations, and the other three comparisons are
made of these. With the sides exchanged, comparisons turn into those of the other direction.
-/

namespace Operator

/-- Each operator with its denial. -/
def denials : List (Operator × Operator) :=
  [(.onText .is, .onText .isNot), (.onText .contains, .onText .doesNotContain),
    (.onText .isOneOf, .onText .isNotOneOf), (.isEmpty, .isNotEmpty)]

/-- Each operator with the one that says the same with the sides exchanged. -/
def mirrors : List (Operator × Operator) :=
  [(.onNumber .less, .onNumber .greater), (.onNumber .greater, .onNumber .less),
    (.onNumber .atMost, .onNumber .atLeast), (.onNumber .atLeast, .onNumber .atMost),
    (.onDate .isBefore, .onDate .isAfter), (.onDate .isAfter, .onDate .isBefore)]

/-- The spellings in ASCII with the operators that they stand for. -/
def spellings : List (String × Operator) :=
  [("!=", .onNumber .notEqual), ("<=", .onNumber .atMost), (">=", .onNumber .atLeast),
    ("==", .onNumber .equal)]

end Operator

namespace Condition

/-- The condition that compares a column with a value. -/
def comparing (id field : String) (operator : Operator) (value : Cell) : Condition :=
  { id, field := some field, operator := some operator.name, value }

/-- A row gets an answer to the question how its cell in a column compares with a value. -/
def Answers (caseSensitive : Bool) (row : Row) (field : String) (operator : Operator)
    (value : Cell) (met : Bool) : Prop :=
  ∀ id, (comparing id field operator value).evaluate caseSensitive row = .ok { holds := met }

variable {caseSensitive : Bool} {row : Row} {field : String} {value : Cell}

theorem operator?_comparing
    (id field : String)
    (operator : Operator)
    (value : Cell) :
    (comparing id field operator value).operator? = some operator :=
  operator.ofName?_name

theorem isUnfinished_comparing
    (notEmpty : field ≠ "")
    (id : String)
    (operator : Operator)
    (value : Cell) :
    (comparing id field operator value).isUnfinished = false :=
  beq_eq_false_iff_ne.mpr notEmpty

theorem answers_onText
    (notEmpty : field ≠ "")
    {operator : TextOperator}
    (noPattern : operator ≠ .matchesPattern) :
    Answers caseSensitive row field (.onText operator) value
      (operator.holds caseSensitive (folded caseSensitive (row.cell field).display)
        (folded caseSensitive value.display) value.display) := by
  intro id
  rw [evaluate_of_onText (operator?_comparing ..) noPattern, isUnfinished_comparing notEmpty]
  rfl

theorem evaluate_comparing_numbers
    (notEmpty : field ≠ "")
    (id : String)
    (operator : NumberOperator) :
    (comparing id field (.onNumber operator) value).evaluate caseSensitive row =
      operator.compare (row.cell field) value :=
  evaluate_of_onNumber (operator?_comparing ..) (isUnfinished_comparing notEmpty ..)

theorem evaluate_comparing_dates
    (notEmpty : field ≠ "")
    (id : String)
    (operator : DateOperator) :
    (comparing id field (.onDate operator) value).evaluate caseSensitive row =
      .ok (operator.compare (row.cell field) value) :=
  evaluate_of_onDate (operator?_comparing ..) (isUnfinished_comparing notEmpty ..)

/-! ## Denials -/

/-- An operator and its denial answer the opposite. -/
theorem answers_denials
    (notEmpty : field ≠ "")
    {operator denial : Operator}
    (denies : (operator, denial) ∈ Operator.denials) :
    ∃ met,
      Answers caseSensitive row field operator value met ∧
        Answers caseSensitive row field denial value !met := by
  simp only [Operator.denials, List.mem_cons, Prod.mk.injEq, List.not_mem_nil, or_false] at denies
  rcases denies with ⟨rfl, rfl⟩ | ⟨rfl, rfl⟩ | ⟨rfl, rfl⟩ | ⟨rfl, rfl⟩
  · exact ⟨_, answers_onText notEmpty nofun, answers_onText notEmpty nofun⟩
  · exact ⟨_, answers_onText notEmpty nofun, answers_onText notEmpty nofun⟩
  · exact ⟨_, answers_onText notEmpty nofun, answers_onText notEmpty nofun⟩
  · exact
      ⟨(row.cell field).isBlank, fun id => evaluate_of_isEmpty (operator?_comparing ..),
        fun id => evaluate_of_isNotEmpty (operator?_comparing ..)⟩

/-! ## Comparisons of numbers -/

/-- What cannot be read as two numbers passes no comparison of numbers. -/
theorem answers_onNumber_of_unread
    (notEmpty : field ≠ "")
    {left right : Option Binary64}
    (isLeft : (row.cell field).number? = .ok left)
    (isRight : value.number? = .ok right)
    (unread : left = none ∨ right = none)
    (operator : NumberOperator) :
    Answers caseSensitive row field (.onNumber operator) value false := by
  intro id
  rw [evaluate_comparing_numbers notEmpty, NumberOperator.compare, isLeft, isRight]
  rcases unread with rfl | rfl
  · rfl
  · cases left <;> rfl

theorem answers_onNumber
    (notEmpty : field ≠ "")
    {left right : Binary64}
    (isLeft : (row.cell field).number? = .ok (some left))
    (isRight : value.number? = .ok (some right))
    (operator : NumberOperator) :
    Answers caseSensitive row field (.onNumber operator) value (operator.holds left right) := by
  intro id
  rw [evaluate_comparing_numbers notEmpty, NumberOperator.compare, isLeft, isRight]
  rfl

end Condition

/-- Two finite numbers are equal or one of them is less, and only one of these is so. -/
theorem Binary64.one_relation
    {left right : Binary64}
    (leftFinite : left.isFinite = true)
    (rightFinite : right.isFinite = true) :
    [left.lt right, left.eqv right, right.lt left].count true = 1 ∧
      right.eqv left = left.eqv right := by
  obtain ⟨leftValue, isLeft⟩ := isFinite_iff_exists_value.mp leftFinite
  obtain ⟨rightValue, isRight⟩ := isFinite_iff_exists_value.mp rightFinite
  have less : left.lt right = decide (leftValue < rightValue) := by
    rw [Bool.eq_iff_iff, lt_iff_of_value isLeft isRight, decide_eq_true_iff]
  have equal : left.eqv right = decide (leftValue = rightValue) := by
    rw [Bool.eq_iff_iff, eqv_iff_of_value isLeft isRight, decide_eq_true_iff]
  have greater : right.lt left = decide (rightValue < leftValue) := by
    rw [Bool.eq_iff_iff, lt_iff_of_value isRight isLeft, decide_eq_true_iff]
  have equalToo : right.eqv left = decide (leftValue = rightValue) := by
    rw [Bool.eq_iff_iff, eqv_iff_of_value isRight isLeft, decide_eq_true_iff, eq_comm]
  rw [less, equal, greater, equalToo]
  refine ⟨?_, rfl⟩
  rcases lt_trichotomy leftValue rightValue with isLess | isEqual | isGreater
  · simp [isLess, isLess.ne, isLess.not_gt]
  · simp [isEqual]
  · simp [isGreater, isGreater.ne', isGreater.not_gt]

namespace Condition

variable {caseSensitive : Bool} {row : Row} {field : String} {value : Cell}

/--
The answers that a row gets to the comparisons of a column with a value as numbers, when both sides
are numbers: one of the three relations, and what the other three comparisons make of it.
-/
def AnswersOneRelation (caseSensitive : Bool) (row : Row) (field : String) (value : Cell) : Prop :=
  ∃ less equal greater,
    [less, equal, greater].count true = 1 ∧
      Answers caseSensitive row field (.onNumber .less) value less ∧
      Answers caseSensitive row field (.onNumber .equal) value equal ∧
      Answers caseSensitive row field (.onNumber .greater) value greater ∧
      Answers caseSensitive row field (.onNumber .atMost) value (less || equal) ∧
      Answers caseSensitive row field (.onNumber .atLeast) value (greater || equal) ∧
      Answers caseSensitive row field (.onNumber .notEqual) value !equal

theorem answersOneRelation
    (notEmpty : field ≠ "")
    {left right : Binary64}
    (isLeft : (row.cell field).number? = .ok (some left))
    (isRight : value.number? = .ok (some right)) :
    AnswersOneRelation caseSensitive row field value := by
  obtain ⟨one, sameBackwards⟩ :=
    Binary64.one_relation (Cell.isFinite_of_reading? (Cell.reading?_of_number? isLeft))
      (Cell.isFinite_of_reading? (Cell.reading?_of_number? isRight))
  have answered (operator : NumberOperator) :
      Answers caseSensitive row field (.onNumber operator) value (operator.holds left right) :=
    answers_onNumber notEmpty isLeft isRight operator
  refine
    ⟨left.lt right, left.eqv right, right.lt left, one, answered .less, answered .equal,
      answered .greater, answered .atMost, ?_, answered .notEqual⟩
  rw [← sameBackwards]
  exact answered .atLeast

/-! ## Comparisons of instants -/

/--
The answers that a row gets to the comparisons of a column with a value as instants: at most one of
them matches, and none unless both sides are instants.
-/
def AnswersOneDirection (caseSensitive : Bool) (row : Row) (field : String) (value : Cell) : Prop :=
  ∃ before after,
    Answers caseSensitive row field (.onDate .isBefore) value before ∧
      Answers caseSensitive row field (.onDate .isAfter) value after ∧
      (before && after) = false ∧
      ((row.cell field).instant? = none ∨ value.instant? = none → (before || after) = false)

theorem answersOneDirection
    (notEmpty : field ≠ "") :
    AnswersOneDirection caseSensitive row field value := by
  have answered (operator : DateOperator) {met : Bool}
      (compared : operator.compare (row.cell field) value = { holds := met }) :
      Answers caseSensitive row field (.onDate operator) value met :=
    fun id => (evaluate_comparing_dates notEmpty id operator).trans (congrArg Except.ok compared)
  cases isLeft : (row.cell field).instant? with
  | none =>
      refine ⟨false, false, answered .isBefore ?_, answered .isAfter ?_, rfl, fun _ => rfl⟩ <;>
        rw [DateOperator.compare, isLeft]
  | some left =>
      cases isRight : value.instant? with
      | none =>
          refine ⟨false, false, answered .isBefore ?_, answered .isAfter ?_, rfl, fun _ => rfl⟩ <;>
            rw [DateOperator.compare, isLeft, isRight]
      | some right =>
          refine
            ⟨left.nanoseconds < right.nanoseconds, right.nanoseconds < left.nanoseconds,
              answered .isBefore ?_, answered .isAfter ?_, ?_, by simp [isLeft, isRight]⟩
          · rw [DateOperator.compare, isLeft, isRight]
            rfl
          · rw [DateOperator.compare, isLeft, isRight]
            rfl
          · rw [Bool.and_eq_false_iff, decide_eq_false_iff_not, decide_eq_false_iff_not]
            omega

/-! ## The sides exchanged -/

end Condition

theorem NumberOperator.compare_swap
    {operator mirror : NumberOperator}
    (mirrored : ∀ left right, operator.holds left right = mirror.holds right left)
    (cell value : Cell) :
    operator.compare cell value = mirror.compare value cell := by
  have onlyOverflow {cell : Cell} {fault : Fault} (fails : cell.number? = .error fault) :
      fault = .overflow :=
    (Cell.number?_eq_error_iff.mp fails).1
  rw [compare, compare]
  cases isLeft : cell.number? with
  | error fault =>
      obtain rfl := onlyOverflow isLeft
      cases isRight : value.number? with
      | error fault =>
          obtain rfl := onlyOverflow isRight
          rfl
      | ok right =>
          rfl
  | ok left =>
      cases isRight : value.number? with
      | error fault =>
          rfl
      | ok right =>
          cases left with
          | none =>
              cases right <;> rfl
          | some left =>
              cases right with
              | none =>
                  rfl
              | some right =>
                  exact
                    congrArg (fun holds => Except.ok ({ holds } : Verdict)) (mirrored left right)

theorem DateOperator.compare_swap
    {operator mirror : DateOperator}
    (mirrored : ∀ left right, operator.holds left right = mirror.holds right left)
    (cell value : Cell) :
    operator.compare cell value = mirror.compare value cell := by
  rw [compare, compare]
  cases cell.instant? with
  | none =>
      cases value.instant? <;> rfl
  | some left =>
      cases value.instant? with
      | none =>
          rfl
      | some right =>
          exact congrArg (fun holds => ({ holds } : Verdict)) (mirrored left right)

namespace Condition

variable {caseSensitive : Bool} {row : Row} {field : String} {value : Cell}

/-- A comparison and its mirror have the same outcome with the cell and the value exchanged. -/
theorem evaluate_mirrors
    (notEmpty : field ≠ "")
    {operator mirror : Operator}
    (mirrors : (operator, mirror) ∈ Operator.mirrors)
    (id : String) :
    (comparing id field operator value).evaluate caseSensitive row =
      (comparing id field mirror (row.cell field)).evaluate caseSensitive
        (row.insert field value) := by
  have exchanged : Row.cell (row.insert field value) field = value := by
    rw [Row.cell, Assoc.find?_insert, if_pos rfl, Option.getD_some]
  have numbers {operator mirror : NumberOperator}
      (mirrored : ∀ left right, operator.holds left right = mirror.holds right left) :
      (comparing id field (.onNumber operator) value).evaluate caseSensitive row =
        (comparing id field (.onNumber mirror) (row.cell field)).evaluate caseSensitive
          (row.insert field value) := by
    rw [evaluate_comparing_numbers notEmpty, evaluate_comparing_numbers notEmpty, exchanged,
      NumberOperator.compare_swap mirrored]
  have dates {operator mirror : DateOperator}
      (mirrored : ∀ left right, operator.holds left right = mirror.holds right left) :
      (comparing id field (.onDate operator) value).evaluate caseSensitive row =
        (comparing id field (.onDate mirror) (row.cell field)).evaluate caseSensitive
          (row.insert field value) := by
    rw [evaluate_comparing_dates notEmpty, evaluate_comparing_dates notEmpty, exchanged,
      DateOperator.compare_swap mirrored]
  simp only [Operator.mirrors, List.mem_cons, Prod.mk.injEq, List.not_mem_nil, or_false] at mirrors
  rcases mirrors with
    ⟨rfl, rfl⟩ | ⟨rfl, rfl⟩ | ⟨rfl, rfl⟩ | ⟨rfl, rfl⟩ | ⟨rfl, rfl⟩ | ⟨rfl, rfl⟩
  · exact numbers fun _ _ => rfl
  · exact numbers fun _ _ => rfl
  · exact numbers fun _ _ => rfl
  · exact numbers fun _ _ => rfl
  · exact dates fun _ _ => rfl
  · exact dates fun _ _ => rfl

/-! ## Spellings -/

/-- Only the operator that its name stands for counts in a condition. -/
theorem evaluate_congr_operator
    {condition : Condition}
    {written : Option String}
    (same : condition.operator? = written.bind Operator.ofName?) :
    condition.evaluate caseSensitive row =
      { condition with operator := written }.evaluate caseSensitive row := by
  rw [evaluate, evaluate, ← operator?, same]
  rfl

theorem evaluate_spelling
    {spelling : String}
    {operator : Operator}
    (stands : (spelling, operator) ∈ Operator.spellings)
    (id : String) :
    Condition.evaluate { id, field := some field, operator := some spelling, value }
        caseSensitive row =
      (comparing id field operator value).evaluate caseSensitive row := by
  have found :
      ∀ entry ∈ Operator.spellings,
        Operator.ofName? entry.1 = Operator.ofName? entry.2.name := by
    decide +kernel
  exact evaluate_congr_operator (found _ stands)

end Condition

/--
Comparisons of texts and questions for presence always answer, and the opposite of their denials.
Between two numbers there is one of the three relations, which settles all six comparisons of
numbers, and none of the six matches unless both sides are numbers. Of the two comparisons of
instants at most one matches, and none unless both sides are instants. A comparison has the same
outcome as its mirror with the sides exchanged, and an ASCII spelling the same as the operator that
it stands for.
-/
theorem operators_are_related
    (caseSensitive : Bool)
    (row : Row)
    {field : String}
    (notEmpty : field ≠ "")
    (value : Cell) :
    (∀ entry ∈ Operator.denials, ∃ met,
        Condition.Answers caseSensitive row field entry.1 value met ∧
          Condition.Answers caseSensitive row field entry.2 value !met) ∧
      (∀ left right, (row.cell field).number? = .ok (some left) →
        value.number? = .ok (some right) →
          Condition.AnswersOneRelation caseSensitive row field value) ∧
      (∀ left right, (row.cell field).number? = .ok left → value.number? = .ok right →
        left = none ∨ right = none →
          ∀ operator, Condition.Answers caseSensitive row field (.onNumber operator) value false) ∧
      Condition.AnswersOneDirection caseSensitive row field value ∧
      (∀ entry ∈ Operator.mirrors, ∀ id,
        (Condition.comparing id field entry.1 value).evaluate caseSensitive row =
          (Condition.comparing id field entry.2 (row.cell field)).evaluate caseSensitive
            (row.insert field value)) ∧
      ∀ entry ∈ Operator.spellings, ∀ id,
        Condition.evaluate { id, field := some field, operator := some entry.1, value }
            caseSensitive row =
          (Condition.comparing id field entry.2 value).evaluate caseSensitive row :=
  ⟨fun _ => Condition.answers_denials notEmpty,
    fun _ _ => Condition.answersOneRelation notEmpty,
    fun _ _ isLeft isRight unread =>
      Condition.answers_onNumber_of_unread notEmpty isLeft isRight unread,
    Condition.answersOneDirection notEmpty,
    fun _ mirrors => Condition.evaluate_mirrors notEmpty mirrors,
    fun _ stands => Condition.evaluate_spelling stands⟩

/-- A bill with an amount and a note. -/
def lateBill : Row :=
  .ofList [("amount", .int 7), ("note", .text "Paid late")]

/-- The amount compares with a numeral between blanks, and not with a text that is none. -/
theorem operators_of_lateBill :
    "amount" ≠ "" ∧
      (lateBill.cell "amount").number? = .ok (some (Binary64.ofNat 7)) ∧
      (Cell.text " 8 ").number? = .ok (some (Binary64.ofNat 8)) ∧
      Condition.AnswersOneRelation false lateBill "amount" (.text " 8 ") ∧
      (Cell.text "n/a").number? = .ok none ∧
      ∀ operator,
        Condition.Answers false lateBill "amount" (.onNumber operator) (.text "n/a") false := by
  have notEmpty : "amount" ≠ "" := by decide
  have seven : (lateBill.cell "amount").number? = .ok (some (Binary64.ofNat 7)) := by
    decide +kernel
  have eight : (Cell.text " 8 ").number? = .ok (some (Binary64.ofNat 8)) := by decide +kernel
  have noNumber : (Cell.text "n/a").number? = .ok none := by decide +kernel
  obtain ⟨-, oneRelation, -⟩ := operators_are_related false lateBill notEmpty (.text " 8 ")
  obtain ⟨-, -, unread, -⟩ := operators_are_related false lateBill notEmpty (.text "n/a")
  exact
    ⟨notEmpty, seven, eight, oneRelation _ _ seven eight, noNumber,
      unread _ _ seven noNumber (.inr rfl)⟩

end Tabular
