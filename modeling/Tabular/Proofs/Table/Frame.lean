import Mathlib.Data.List.TakeWhile
import Tabular.Proofs.Cell.Value
import Tabular.Proofs.Number.Counts
import Tabular.Proofs.Number.Range
import Tabular.Proofs.Outcome
import Tabular.Table.Frame

namespace Tabular

/-!
# What frames show

A frame shows a column as it is, or with its integers as the nearest binary64 numbers. Which of the
two it is depends on all cells of the column: on their sorts, and on whether the integers before the
first gap fit into one sort of machine integer. Here this is said of the cells at once, while the
scan goes through them one by one and stops at the first cell that settles the matter.
-/

/-! ## What cells hold -/

/-- What a cell holds: what it denotes, and nothing when it is a gap. -/
def Cell.content (cell : Cell) : Meaning :=
  cell.meaning?.getD .nothing

namespace Frame

/-- A filled cell denotes what the cell holds. -/
theorem meaning?_filledCell
    (cell : Cell) :
    (filledCell cell).meaning? = some cell.content := by
  cases cell with
  | float number =>
      cases number with
      | nan | infinite negative | finite negative significand exponent canonical =>
          rfl
  | null | bool value | int value | text value | date value | moment value =>
      rfl

/-- Filled cells are the same value when the cells hold the same. -/
theorem sameValue_filledCell_iff
    (left right : Cell) :
    (filledCell left).sameValue (filledCell right) = true ↔ left.content = right.content := by
  rw [Cell.sameValue_iff, meaning?_filledCell, meaning?_filledCell, Meaning.agree_some_right,
    Option.some.injEq]

end Frame

/-! ## Integers as binary64 numbers -/

namespace Binary64

theorem ofInt_eq_nearest
    (value : Int) :
    ofInt value = nearest value := by
  refine ofRatio_eq_nearest Nat.one_pos ?_ fun isZero => ?_
  · rw [Nat.cast_one, div_one, signedSignificand]
    split
    · next negative =>
        rw [decide_eq_true_iff] at negative
        rw [Int.ofNat_natAbs_of_nonpos negative.le, neg_neg]
    · next notNegative =>
        rw [decide_eq_true_iff] at notNegative
        rw [Int.natAbs_of_nonneg (not_lt.mp notNegative)]
  · rw [Int.natAbs_eq_zero.mp isZero]
    rfl

/-- An integer that a binary64 number denotes is not rounded. -/
theorem value?_ofInt_of_value
    {number : Binary64}
    {value : Int}
    (isValue : number.value? = some (value : ℚ)) :
    (ofInt value).value? = some (value : ℚ) := by
  rw [ofInt_eq_nearest]
  rcases eq_or_ne (value : ℚ) 0 with isZero | nonzero
  · rw [isZero, nearest_zero, value?_zero]
  · rw [nearest_of_value isValue nonzero, isValue]

/-- The integer is its own nearest binary64 number. -/
def IsExactFor (value : Int) : Prop :=
  (ofInt value).toInt? = some value

instance (value : Int) : Decidable (IsExactFor value) :=
  inferInstanceAs (Decidable (_ = _))

/-- Integers of up to 53 bits are not rounded. -/
theorem isExactFor_of_natAbs_lt
    {value : Int}
    (small : value.natAbs < Nat.pow 2 53) :
    IsExactFor value := by
  have exact := @value?_nearest value 0 small (by decide) (by decide)
  rw [zpow_zero, mul_one] at exact
  rwa [IsExactFor, toInt?_eq_some_iff, ofInt_eq_nearest]

end Binary64

namespace Frame

/-- An integer that is not rounded is shown as the same value. -/
theorem content_realCell_of_isExactFor
    {value : Int}
    (exact : Binary64.IsExactFor value) :
    (realCell (.int value)).content = (Cell.int value).content := by
  have denotes := Binary64.meaning?_of_value (Binary64.toInt?_eq_some_iff.mp exact)
  rw [realCell, Cell.content, Cell.meaning?, denotes]
  rfl

/-! ## Which columns become real -/

/-- Nothing, an integer or a binary64 number. -/
def isNumeric : Cell → Bool
  | .null | .int _ | .float _ => true
  | _ => false

/-- A text or a date: nothing after it is looked at. -/
def isForeign : Cell → Bool
  | .text _ | .date _ => true
  | _ => false

/-- The integer in a cell. -/
def integer? : Cell → Option Int
  | .int value => some value
  | _ => none

/-- The integers before the first gap. -/
def earlyIntegers (cells : List Cell) : List Int :=
  (cells.takeWhile fun cell => cell ≠ .null).filterMap integer?

/-- All of the integers fit into 64 bits, with a sign or without one. -/
def FitTogether (integers : List Int) : Prop :=
  (∀ value ∈ integers, -(Nat.pow 2 63 : Int) ≤ value ∧ value < Nat.pow 2 64) ∧
    ¬((∃ value ∈ integers, value < 0) ∧ ∃ value ∈ integers, (Nat.pow 2 63 : Int) ≤ value)

instance (integers : List Int) : Decidable (FitTogether integers) :=
  inferInstanceAs (Decidable (_ ∧ _))

/-- The column holds numbers and gaps, not only integers: it becomes one of binary64 numbers. -/
def BecomesReal (cells : List Cell) : Prop :=
  (∀ cell ∈ cells, isNumeric cell) ∧ FitTogether (earlyIntegers cells) ∧
    ∃ cell ∈ cells, integer? cell = none

instance (cells : List Cell) : Decidable (BecomesReal cells) :=
  inferInstanceAs (Decidable (_ ∧ _))

/-- After the cells nothing is looked at. -/
def Stops (cells : List Cell) : Prop :=
  (∃ cell ∈ cells, isForeign cell) ∨ ¬FitTogether (earlyIntegers cells)

/-- An integer without a nearest finite number is looked at. -/
def Overflows (cells : List Cell) : Prop :=
  ∃ before value after, cells = before ++ .int value :: after ∧ ¬Stops before ∧
    Binary64.intLimit ≤ value.natAbs

/-! ## One more cell -/

section

variable {cells : List Cell}

theorem earlyIntegers_append_of_gap
    (gap : .null ∈ cells)
    (more : List Cell) :
    earlyIntegers (cells ++ more) = earlyIntegers cells := by
  rw [earlyIntegers, earlyIntegers, List.takeWhile_append, if_neg]
  intro whole
  have kept := @List.all_takeWhile _ (fun cell : Cell => decide (cell ≠ .null)) cells
  rw [(List.takeWhile_prefix _).eq_of_length whole] at kept
  simpa using List.all_eq_true.mp kept _ gap

theorem earlyIntegers_append_singleton
    (noGap : .null ∉ cells)
    (cell : Cell) :
    earlyIntegers (cells ++ [cell]) = earlyIntegers cells ++ (integer? cell).toList := by
  have noneIsGap : ∀ other ∈ cells, decide (other ≠ .null) = true := by
    intro other member
    exact decide_eq_true fun isGap => noGap (isGap ▸ member)
  have whole : cells.takeWhile (fun other => decide (other ≠ .null)) = cells :=
    List.takeWhile_eq_self_iff.mpr noneIsGap
  rw [earlyIntegers, earlyIntegers, List.takeWhile_append_of_pos noneIsGap, whole,
    List.filterMap_append]
  congr 1
  cases cell <;> rfl

theorem earlyIntegers_append_of_not_integer
    {cell : Cell}
    (notInteger : integer? cell = none) :
    earlyIntegers (cells ++ [cell]) = earlyIntegers cells := by
  by_cases gap : .null ∈ cells
  · exact earlyIntegers_append_of_gap gap _
  · rw [earlyIntegers_append_singleton gap, notInteger, Option.toList_none, List.append_nil]

theorem FitTogether.of_append
    {integers more : List Int}
    (fit : FitTogether (integers ++ more)) :
    FitTogether integers := by
  refine ⟨fun value member => fit.1 value (List.mem_append_left _ member), fun clash => fit.2 ?_⟩
  obtain ⟨⟨value, member, negative⟩, other, otherMember, large⟩ := clash
  exact
    ⟨⟨value, List.mem_append_left _ member, negative⟩, other,
      List.mem_append_left _ otherMember, large⟩

/-- Where the scan has stopped it stays stopped. -/
theorem Stops.append
    (stops : Stops cells)
    (cell : Cell) :
    Stops (cells ++ [cell]) := by
  rcases stops with ⟨foreign, member, isForeign⟩ | clash
  · exact .inl ⟨foreign, List.mem_append_left _ member, isForeign⟩
  · refine .inr fun fit => clash ?_
    by_cases gap : .null ∈ cells
    · rwa [earlyIntegers_append_of_gap gap] at fit
    · rw [earlyIntegers_append_singleton gap] at fit
      exact fit.of_append

/-- A cell that is no integer stops the scan when it is foreign. -/
theorem stops_append_iff_of_not_integer
    {cell : Cell}
    (notInteger : integer? cell = none) :
    Stops (cells ++ [cell]) ↔ Stops cells ∨ isForeign cell := by
  rw [Stops, Stops, earlyIntegers_append_of_not_integer notInteger]
  simp only [List.mem_append, List.mem_singleton, or_and_right, exists_or, exists_eq_left]
  exact or_right_comm

end

/-! ## The scan -/

/-- The cells have a sort that keeps the column as it is, or integers that do not fit together. -/
def IsMixed (cells : List Cell) : Prop :=
  (∃ cell ∈ cells, isNumeric cell = false) ∨ ¬FitTogether (earlyIntegers cells)

theorem IsMixed.of_stops
    {cells : List Cell}
    (stops : Stops cells) :
    IsMixed cells := by
  rcases stops with ⟨cell, member, isForeign⟩ | clash
  · refine .inl ⟨cell, member, ?_⟩
    cases cell with
    | text value | date value =>
        rfl
    | null | bool value | int value | float value | moment value =>
        exact absurd isForeign Bool.false_ne_true
  · exact .inr clash

/-- A cell that is no integer mixes a column when it is not numeric. -/
theorem isMixed_append_iff_of_not_integer
    {cells : List Cell}
    {cell : Cell}
    (notInteger : integer? cell = none) :
    IsMixed (cells ++ [cell]) ↔ IsMixed cells ∨ isNumeric cell = false := by
  rw [IsMixed, IsMixed, earlyIntegers_append_of_not_integer notInteger]
  simp only [List.mem_append, List.mem_singleton, or_and_right, exists_or, exists_eq_left]
  exact or_right_comm

/-- An integer mixes a column when it does not fit to the integers before. -/
theorem isMixed_append_int_iff
    {cells : List Cell}
    (fit : FitTogether (earlyIntegers cells))
    (value : Int) :
    IsMixed (cells ++ [.int value]) ↔
      IsMixed cells ∨ ¬FitTogether (earlyIntegers (cells ++ [.int value])) := by
  rw [IsMixed, IsMixed]
  simp [isNumeric, or_and_right, exists_or, fit]

theorem stops_append_int_iff
    {cells : List Cell}
    (goesOn : ¬Stops cells)
    (value : Int) :
    Stops (cells ++ [.int value]) ↔ ¬FitTogether (earlyIntegers (cells ++ [.int value])) := by
  rw [Stops, not_or] at goesOn
  rw [Stops, or_iff_right]
  rintro ⟨cell, member, foreign⟩
  rcases List.mem_append.mp member with earlier | isLast
  · exact goesOn.1 ⟨cell, earlier, foreign⟩
  · rw [List.mem_singleton.mp isLast] at foreign
    exact absurd foreign Bool.false_ne_true

/-- Whether one more integer fits depends on its size and on the signs so far. -/
theorem fitTogether_append_iff
    {integers : List Int}
    (fit : FitTogether integers)
    (value : Int) :
    FitTogether (integers ++ [value]) ↔
      (-(Nat.pow 2 63 : Int) ≤ value ∧ value < Nat.pow 2 64) ∧
        ¬(((∃ other ∈ integers, other < 0) ∨ value < 0) ∧
          ((∃ other ∈ integers, (Nat.pow 2 63 : Int) ≤ other) ∨
            (Nat.pow 2 63 : Int) ≤ value)) := by
  rw [FitTogether]
  simp only [List.mem_append, List.mem_singleton, or_imp, forall_and, forall_eq, or_and_right,
    exists_or, exists_eq_left]
  have inRange := fit.1
  simp only [forall_and] at inRange
  tauto

/-- The scan knows about the cells what it has to know. -/
structure ColumnScan.Describes (scan : ColumnScan) (cells : List Cell) : Prop where
  mixed_iff : scan.mixed = true ↔ IsMixed cells
  stopped_iff : scan.stopped = true ↔ Stops cells
  gap_iff : ¬Stops cells → (scan.gap = true ↔ .null ∈ cells)
  real_iff : ¬Stops cells → (scan.real = true ↔ ∃ number, .float number ∈ cells)
  negative_iff : ¬Stops cells → (scan.negative = true ↔ ∃ value ∈ earlyIntegers cells, value < 0)
  unsigned_iff : ¬Stops cells →
    (scan.unsigned = true ↔ ∃ value ∈ earlyIntegers cells, (Nat.pow 2 63 : Int) ≤ value)

theorem ColumnScan.step_int_eq
    {scan : ColumnScan}
    (goesOn : ¬scan.stopped = true)
    (value : Int) :
    scan.step (.int value) = scan.integer value := by
  unfold ColumnScan.step
  rw [if_neg goesOn]

namespace ColumnScan.Describes

variable {scan : ColumnScan} {cells : List Cell}

theorem empty :
    ColumnScan.Describes {} [] where
  mixed_iff := by simp [IsMixed, earlyIntegers, FitTogether]
  stopped_iff := by simp [Stops, earlyIntegers, FitTogether]
  gap_iff _ := by simp
  real_iff _ := by simp
  negative_iff _ := by simp [earlyIntegers]
  unsigned_iff _ := by simp [earlyIntegers]

/-- A scan that has stopped ignores the next cell. -/
theorem append_of_stops
    (describes : scan.Describes cells)
    (stops : Stops cells)
    (cell : Cell) :
    scan.Describes (cells ++ [cell]) where
  mixed_iff := iff_of_true (describes.mixed_iff.mpr (.of_stops stops))
    (.of_stops (stops.append cell))
  stopped_iff := iff_of_true (describes.stopped_iff.mpr stops) (stops.append cell)
  gap_iff goesOn := absurd (stops.append cell) goesOn
  real_iff goesOn := absurd (stops.append cell) goesOn
  negative_iff goesOn := absurd (stops.append cell) goesOn
  unsigned_iff goesOn := absurd (stops.append cell) goesOn

/-- The step after a cell that is no integer. -/
theorem step_of_not_integer
    (describes : scan.Describes cells)
    (goesOn : ¬Stops cells)
    {cell : Cell}
    (notInteger : integer? cell = none) :
    ∃ next, scan.step cell = .ok next ∧ next.Describes (cells ++ [cell]) := by
  have notStopped : scan.stopped = false := by
    rw [← Bool.not_eq_true, describes.stopped_iff]
    exact goesOn
  have mixed : IsMixed (cells ++ [cell]) ↔ IsMixed cells ∨ isNumeric cell = false :=
    isMixed_append_iff_of_not_integer notInteger
  have stops : Stops (cells ++ [cell]) ↔ Stops cells ∨ isForeign cell :=
    stops_append_iff_of_not_integer notInteger
  have integers : earlyIntegers (cells ++ [cell]) = earlyIntegers cells :=
    earlyIntegers_append_of_not_integer notInteger
  have isGap := describes.gap_iff goesOn
  have isReal := describes.real_iff goesOn
  have isNegative := describes.negative_iff goesOn
  have isUnsigned := describes.unsigned_iff goesOn
  unfold ColumnScan.step
  rw [notStopped, if_neg Bool.false_ne_true]
  cases cell with
  | int value =>
      exact absurd notInteger (Option.some_ne_none value)
  | null | float number | bool value | moment value | text value | date value =>
      refine ⟨_, rfl, ?_, ?_, ?_, ?_, ?_, ?_⟩ <;>
        simp [mixed, stops, integers, isNumeric, isForeign, describes.mixed_iff, isGap,
          isReal, isNegative, isUnsigned, goesOn]

/-- After a gap, an integer no longer has to fit. -/
theorem append_int_of_gap
    (describes : scan.Describes cells)
    (goesOn : ¬Stops cells)
    (gap : .null ∈ cells)
    (value : Int) :
    scan.Describes (cells ++ [.int value]) := by
  have fit : FitTogether (earlyIntegers cells) :=
    not_not.mp (not_or.mp goesOn).2
  have integers := earlyIntegers_append_of_gap gap [.int value]
  have mixed := isMixed_append_int_iff fit value
  have stops := stops_append_int_iff goesOn value
  constructor <;>
    simp [mixed, stops, integers, fit, goesOn, describes.mixed_iff, describes.stopped_iff,
      describes.gap_iff goesOn, describes.real_iff goesOn, describes.negative_iff goesOn,
      describes.unsigned_iff goesOn]

/-- The flags tell whether one more integer fits to those before. -/
theorem clash_iff
    (describes : scan.Describes cells)
    (goesOn : ¬Stops cells)
    (value : Int) :
    ((scan.negative || (-(Nat.pow 2 63 : Int) ≤ value && value < 0)) &&
            (scan.unsigned || (Nat.pow 2 63 ≤ value && value < Nat.pow 2 64)) ||
          value < -(Nat.pow 2 63 : Int) || Nat.pow 2 64 ≤ value) = true ↔
      ¬FitTogether (earlyIntegers cells ++ [value]) := by
  have fit : FitTogether (earlyIntegers cells) :=
    not_not.mp (not_or.mp goesOn).2
  have low : value < -(Nat.pow 2 63 : Int) ↔ ¬-(Nat.pow 2 63 : Int) ≤ value := not_le.symm
  have high : (Nat.pow 2 64 : Int) ≤ value ↔ ¬value < Nat.pow 2 64 := not_lt.symm
  rw [fitTogether_append_iff fit, ← describes.negative_iff goesOn, ← describes.unsigned_iff goesOn]
  simp only [Bool.or_eq_true, Bool.and_eq_true, decide_eq_true_eq]
  rw [low, high]
  by_cases above : -(Nat.pow 2 63 : Int) ≤ value
  · by_cases below : value < Nat.pow 2 64
    · simp only [above, below, true_and, and_true, not_true, or_false, not_not]
    · simp only [below, and_false, false_and, not_false_eq_true, or_true]
  · simp only [above, false_and, not_false_eq_true, or_true, true_or]

/-- Before any gap, an integer that does not fit to those before stops the scan. -/
theorem integer_of_no_gap
    (describes : scan.Describes cells)
    (goesOn : ¬Stops cells)
    (gap : .null ∉ cells)
    {value : Int}
    {number : Binary64}
    (isNumber : Amount.realOfInt value = .ok number) :
    ∃ next, scan.integer value = .ok next ∧ next.Describes (cells ++ [.int value]) := by
  have fit : FitTogether (earlyIntegers cells) :=
    not_not.mp (not_or.mp goesOn).2
  have integers := earlyIntegers_append_singleton gap (.int value)
  have mixed := isMixed_append_int_iff fit value
  have stops := stops_append_int_iff goesOn value
  rw [integers] at mixed stops
  simp only [integer?, Option.toList_some] at integers mixed stops
  have noGap : scan.gap = false := by
    rw [← Bool.not_eq_true, describes.gap_iff goesOn]
    exact gap
  rw [ColumnScan.integer, isNumber]
  simp only [noGap, Bool.false_eq_true, if_false, bind, Except.bind]
  split
  · next clash =>
      have clashes := (describes.clash_iff goesOn value).mp clash
      refine ⟨_, rfl, ?_, ?_, ?_, ?_, ?_, ?_⟩ <;>
        simp [mixed, stops, clashes]
  · next agree =>
      have fitsNow := not_not.mp (mt (describes.clash_iff goesOn value).mpr agree)
      obtain ⟨above, below⟩ := ((fitTogether_append_iff fit value).mp fitsNow).1
      have notStopped : ¬scan.stopped = true := by
        rwa [describes.stopped_iff]
      refine ⟨_, rfl, ?_, ?_, ?_, ?_, ?_, ?_⟩
      · simp [mixed, fitsNow, describes.mixed_iff]
      · simp [stops, fitsNow, notStopped]
      · simp [gap]
      · simp [describes.real_iff goesOn]
      · simp only [integers, Bool.or_eq_true, describes.negative_iff goesOn, Bool.and_eq_true,
          decide_eq_true_eq, above, true_and, List.mem_append, List.mem_singleton, or_and_right,
          exists_or, exists_eq_left, implies_true]
      · simp only [integers, Bool.or_eq_true, describes.unsigned_iff goesOn, Bool.and_eq_true,
          decide_eq_true_eq, below, and_true, List.mem_append, List.mem_singleton, or_and_right,
          exists_or, exists_eq_left, implies_true]

/-- The step after an integer that has a nearest finite number. -/
theorem step_int
    (describes : scan.Describes cells)
    (goesOn : ¬Stops cells)
    {value : Int}
    {number : Binary64}
    (isNumber : Amount.realOfInt value = .ok number) :
    ∃ next, scan.step (.int value) = .ok next ∧ next.Describes (cells ++ [.int value]) := by
  rw [step_int_eq (by rwa [describes.stopped_iff])]
  by_cases gap : .null ∈ cells
  · refine ⟨scan, ?_, describes.append_int_of_gap goesOn gap value⟩
    rw [ColumnScan.integer, isNumber]
    exact if_pos ((describes.gap_iff goesOn).mpr gap)
  · exact describes.integer_of_no_gap goesOn gap isNumber

/-- A step overflows for an integer beyond the range, and otherwise describes one more cell. -/
theorem step_cases
    (describes : scan.Describes cells)
    (goesOn : ¬Stops cells)
    (cell : Cell) :
    (∃ value, cell = .int value ∧ Binary64.intLimit ≤ value.natAbs) ∧
        scan.step cell = .error .overflow ∨
      (¬∃ value, cell = .int value ∧ Binary64.intLimit ≤ value.natAbs) ∧
        ∃ next, scan.step cell = .ok next ∧ next.Describes (cells ++ [cell]) := by
  cases isInteger : integer? cell with
  | none =>
      refine .inr ⟨?_, describes.step_of_not_integer goesOn isInteger⟩
      rintro ⟨value, rfl, -⟩
      exact absurd isInteger (Option.some_ne_none value)
  | some value =>
      obtain rfl : cell = .int value := by
        cases cell <;> simp_all [integer?]
      rcases isNumber : Amount.realOfInt value with fault | number
      · obtain ⟨rfl, beyond⟩ := Amount.realOfInt_eq_error_iff.mp isNumber
        refine .inl ⟨⟨value, rfl, beyond⟩, ?_⟩
        rw [step_int_eq (by rwa [describes.stopped_iff]), ColumnScan.integer, isNumber]
        rfl
      · refine .inr ⟨?_, describes.step_int goesOn isNumber⟩
        rintro ⟨other, same, beyond⟩
        cases same
        rw [Amount.realOfInt_eq_error_iff.mpr ⟨rfl, beyond⟩] at isNumber
        exact absurd isNumber nofun

end ColumnScan.Describes

/-- A column overflows with its last cell when it has before, or when the cell is looked at. -/
theorem overflows_append_singleton_iff
    {cells : List Cell}
    {cell : Cell} :
    Overflows (cells ++ [cell]) ↔
      Overflows cells ∨
        ¬Stops cells ∧ ∃ value, cell = .int value ∧ Binary64.intLimit ≤ value.natAbs := by
  constructor
  · rintro ⟨before, value, after, isSplit, goesOn, beyond⟩
    rcases List.eq_nil_or_concat after with rfl | ⟨rest, last, rfl⟩
    · obtain ⟨rfl, isLast⟩ := List.append_inj' isSplit rfl
      exact .inr ⟨goesOn, value, List.singleton_inj.mp isLast, beyond⟩
    · rw [List.concat_eq_append, ← List.cons_append, ← List.append_assoc] at isSplit
      exact .inl ⟨before, value, rest, (List.append_inj' isSplit rfl).1, goesOn, beyond⟩
  · rintro (⟨before, value, after, rfl, goesOn, beyond⟩ | ⟨goesOn, value, rfl, beyond⟩)
    · exact ⟨before, value, after ++ [cell], by simp, goesOn, beyond⟩
    · exact ⟨cells, value, [], rfl, goesOn, beyond⟩

/-- The scan of a column overflows, or it describes the column. -/
theorem scan_cases
    (cells : List Cell) :
    Overflows cells ∧ cells.foldlM ColumnScan.step {} = .error .overflow ∨
      ¬Overflows cells ∧ ∃ scan, cells.foldlM ColumnScan.step {} = .ok scan ∧
        scan.Describes cells := by
  induction cells using List.reverseRecOn with
  | nil =>
      exact .inr ⟨by simp [Overflows], {}, rfl, .empty⟩
  | append_singleton cells cell inductionHypothesis =>
      rw [overflows_append_singleton_iff, List.foldlM_append]
      rcases inductionHypothesis with ⟨overflows, failed⟩ | ⟨within, scan, scanned, describes⟩
      · rw [failed]
        exact .inl ⟨.inl overflows, rfl⟩
      · rw [scanned]
        simp only [bind, Except.bind, List.foldlM_cons, List.foldlM_nil, or_iff_right within]
        by_cases stops : Stops cells
        · have ignored : scan.step cell = .ok scan := by
            unfold ColumnScan.step
            rw [if_pos (describes.stopped_iff.mpr stops)]
          rw [ignored]
          exact .inr ⟨fun looked => looked.1 stops, scan, rfl, describes.append_of_stops stops cell⟩
        · rcases describes.step_cases stops cell with
            ⟨beyond, failed⟩ | ⟨notBeyond, next, stepped, describesNext⟩
          · rw [failed]
            exact .inl ⟨⟨stops, beyond⟩, rfl⟩
          · rw [stepped]
            exact .inr ⟨fun looked => notBeyond looked.2, next, rfl, describesNext⟩

/-- The scan of a column tells whether it becomes real. -/
theorem ColumnScan.Describes.converts_iff
    {scan : ColumnScan}
    {cells : List Cell}
    (describes : scan.Describes cells) :
    (!scan.mixed && (scan.gap || scan.real)) = true ↔ BecomesReal cells := by
  rw [Bool.and_eq_true, Bool.not_eq_true', ← Bool.not_eq_true, describes.mixed_iff, Bool.or_eq_true]
  have uniform : ¬IsMixed cells ↔
      (∀ cell ∈ cells, isNumeric cell) ∧ FitTogether (earlyIntegers cells) := by
    simp [IsMixed]
  rw [BecomesReal, ← and_assoc, ← uniform]
  refine and_congr_right fun notMixed => ?_
  have goesOn : ¬Stops cells := fun stops => notMixed (.of_stops stops)
  have numeric := (uniform.mp notMixed).1
  rw [describes.gap_iff goesOn, describes.real_iff goesOn]
  constructor
  · rintro (gap | ⟨number, real⟩)
    · exact ⟨_, gap, rfl⟩
    · exact ⟨_, real, rfl⟩
  · rintro ⟨cell, member, notInteger⟩
    have isNumber := numeric cell member
    cases cell with
    | null =>
        exact .inl member
    | float number =>
        exact .inr ⟨number, member⟩
    | int value =>
        exact absurd notInteger (Option.some_ne_none value)
    | bool value | text value | date value | moment value =>
        exact absurd isNumber Bool.false_ne_true

/-! ## Frames -/

/-- How a column with the cells shows one of them. -/
def shown (cells : List Cell) (cell : Cell) : Cell :=
  if BecomesReal cells then realCell cell else cell

/-- A column is made uniform unless it overflows. -/
theorem uniformColumn_cases
    (cells : List Cell) :
    Overflows cells ∧ uniformColumn cells = .error .overflow ∨
      ¬Overflows cells ∧
        uniformColumn cells = .ok (cells.map fun cell => filledCell (shown cells cell)) := by
  rcases scan_cases cells with ⟨overflows, failed⟩ | ⟨within, scan, scanned, describes⟩
  · refine .inl ⟨overflows, ?_⟩
    rw [uniformColumn, failed]
    rfl
  · refine .inr ⟨within, ?_⟩
    rw [uniformColumn, scanned]
    simp only [bind, Except.bind, shown]
    by_cases becomesReal : BecomesReal cells
    · simp only [describes.converts_iff.mpr becomesReal, becomesReal, if_true, List.map_map]
      rfl
    · have stays := mt describes.converts_iff.mp becomesReal
      simp only [stays, becomesReal, if_false, Bool.false_eq_true]

/-- The cells of rows in a column. -/
def cellsIn (rows : List Row) (column : String) : List Cell :=
  rows.map fun row => row.cell column

/-- The line of a row in the frame of the rows. -/
def lineOf (rows : List Row) (columns : List String) (row : Row) : List Cell :=
  columns.map fun column => filledCell (shown (cellsIn rows column) (row.cell column))

/-- The lines of a frame, from the cells that its columns show. -/
theorem linesOf_map
    (rows : List Row)
    (columns : List String)
    (showing : String → Row → Cell) :
    linesOf rows.length (columns.map fun column => rows.map (showing column)) =
      rows.map fun row => columns.map fun column => showing column row := by
  refine List.ext_getElem (by simp [linesOf]) fun index inLines inRows => ?_
  simp only [List.length_map] at inRows
  simp [linesOf, inRows]

/-- A frame has a line for each row unless a column overflows. -/
theorem ofRows_cases
    (rows : List Row)
    (columns : List String) :
    (∃ column ∈ columns, Overflows (cellsIn rows column)) ∧
        ofRows rows columns = .error .overflow ∨
      (∀ column ∈ columns, ¬Overflows (cellsIn rows column)) ∧
        ofRows rows columns = .ok (rows.map (lineOf rows columns)) := by
  have uniform (column : String) := uniformColumn_cases (cellsIn rows column)
  by_cases overflows : ∃ column ∈ columns, Overflows (cellsIn rows column)
  · refine .inl ⟨overflows, ?_⟩
    have fails : Outcome.OverflowsIff
        (columns.mapM fun column => uniformColumn (cellsIn rows column))
        (∃ column ∈ columns, Overflows (cellsIn rows column)) :=
      .mapM fun column _ =>
        ⟨fun cause => ((uniform column).resolve_right fun within => within.1 cause).2,
          fun absent => ⟨_, ((uniform column).resolve_left fun cause => absent cause.1).2⟩⟩
    have failed := fails.overflows overflows
    rw [ofRows]
    exact congrArg (· >>= _) failed
  · have within : ∀ column ∈ columns, ¬Overflows (cellsIn rows column) :=
      fun column member cause => overflows ⟨column, member, cause⟩
    refine .inr ⟨within, ?_⟩
    have answered :=
      Outcome.mapM_eq_ok_map fun column member =>
        ((uniform column).resolve_left fun cause => within column member cause.1).2
    rw [ofRows]
    refine (congrArg (· >>= _) answered).trans (congrArg Except.ok ?_)
    simp only [cellsIn, List.map_map]
    exact linesOf_map rows columns fun column row =>
      filledCell (shown (cellsIn rows column) (row.cell column))

end Frame

end Tabular
