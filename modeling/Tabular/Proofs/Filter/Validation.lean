import Mathlib.Data.List.Basic
import Tabular.Filter.Validation

namespace Tabular

/-!
# Which operators a condition may have

An operator is told by its name. A condition that names a column is valid exactly when its operator
is among the ones that are offered for the type of the column: the operators that only ask for the
presence of a value are offered for every type.
-/

namespace Operator

theorem mem_all
    (operator : Operator) :
    operator ∈ all := by
  cases operator with
  | isEmpty | isNotEmpty =>
      decide
  | onText operator | onNumber operator | onDate operator =>
      cases operator <;> decide

/-- No two operators have the same name. -/
theorem name_injective :
    Function.Injective name := by
  have distinct : ∀ operator ∈ all, ∀ other ∈ all,
      operator.name = other.name → operator = other := by
    decide +kernel
  exact fun operator other => distinct operator (mem_all operator) other (mem_all other)

/-- An operator is found under its name and under its ASCII spelling. -/
theorem ofName?_eq_some_iff
    {written : String}
    {operator : Operator} :
    ofName? written = some operator ↔ operator.name = normalizeName written := by
  have name_of_found {found : Operator} (isFound : ofName? written = some found) :
      found.name = normalizeName written := by
    rw [ofName?] at isFound
    simpa using List.find?_some isFound
  constructor
  · exact name_of_found
  · intro named
    have isFound : (ofName? written).isSome := by
      rw [ofName?, List.find?_isSome]
      exact ⟨operator, mem_all operator, beq_iff_eq.mpr named⟩
    obtain ⟨found, isFound⟩ := Option.isSome_iff_exists.mp isFound
    rw [isFound, name_injective ((name_of_found isFound).trans named.symm)]

/-- The operators that ask for the presence of a value are offered for every type. -/
theorem mem_offeredFor_of_forPresence
    {operator : Operator}
    (member : operator ∈ forPresence)
    (columnType : ColumnType) :
    operator ∈ offeredFor columnType := by
  have inEach : ∀ operator ∈ forPresence,
      operator ∈ forTexts ∧ operator ∈ forNumbers ∧ operator ∈ forDates := by
    decide
  obtain ⟨inTexts, inNumbers, inDates⟩ := inEach operator member
  cases columnType <;> assumption

end Operator

/-- A condition with a column is valid when its operator is offered for the type of the column. -/
theorem Condition.validate_eq_ok_iff
    {condition : Condition}
    (finished : condition.isUnfinished = false)
    {written : String}
    (named : condition.operator = some written)
    (types : Assoc ColumnType) :
    condition.validate types = .ok () ↔
      Operator.normalizeName written ∈
        (Operator.offeredFor (condition.columnType types)).map Operator.name := by
  have offered_iff (operator : Operator) (isFound : Operator.ofName? written = some operator) :
      Operator.normalizeName written ∈
          (Operator.offeredFor (condition.columnType types)).map Operator.name ↔
        operator ∈ Operator.offeredFor (condition.columnType types) := by
    rw [← Operator.ofName?_eq_some_iff.mp isFound]
    exact List.mem_map_of_injective Operator.name_injective
  rw [validate, named, Option.bind_some]
  split
  · next unknown =>
      refine iff_of_false nofun fun member => ?_
      obtain ⟨operator, -, sameName⟩ := List.mem_map.mp member
      rw [Operator.ofName?_eq_some_iff.mpr sameName] at unknown
      cases unknown
  · next operator isFound =>
      rw [offered_iff operator isFound]
      dsimp only
      split
      · next accepted =>
          refine iff_of_true rfl ?_
          simp only [finished, Bool.false_or, Bool.or_eq_true, List.contains_iff_mem] at accepted
          exact accepted.elim (Operator.mem_offeredFor_of_forPresence · _) fun offered => offered
      · next refused =>
          refine iff_of_false nofun fun member => refused ?_
          simp [member]

end Tabular
