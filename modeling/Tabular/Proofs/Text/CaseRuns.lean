import Mathlib.Data.List.Chain
import Mathlib.Data.Nat.Bitwise
import Tabular.Text.Case

namespace Tabular.Text.CaseRun

/-!
# Runs of code points

A run moves the code points of an arithmetic progression by one offset. The runs of a table follow
one another, so that a code point is moved by one run at most. Whether runs have code points in
common is told by numbers whose bits are the code points: the bits of one table are a single number,
and two tables are apart when their numbers have no bit in common.
-/

/-! ## What a run moves -/

/-- A run moves a code point. -/
def Moves (run : CaseRun) (point : Nat) : Prop :=
  run.first ≤ point ∧ point ≤ run.last ∧ (point - run.first) % run.step = 0

instance (run : CaseRun) (point : Nat) : Decidable (run.Moves point) :=
  inferInstanceAs (Decidable (_ ∧ _ ∧ _))

/-- Where a run moves a code point to. -/
def image (run : CaseRun) (point : Nat) : Nat :=
  ((point : Int) + run.offset).toNat

/-- The run of a single code point. -/
def single (point : Nat) : CaseRun :=
  { first := point, last := point, step := 1, offset := 0 }

/-- Where a run moves all the code points of another one to. -/
def imageOf (run other : CaseRun) : CaseRun :=
  { other with first := run.image other.first, last := run.image other.last }

/-- The images of a run. -/
def images (run : CaseRun) : CaseRun :=
  run.imageOf run

variable {run other next : CaseRun} {runs others : List CaseRun} {point : Nat}

theorem moves_single :
    (single point).Moves point :=
  ⟨le_rfl, le_rfl, Nat.mod_one _⟩

theorem moves_imageOf
    (fits : 0 ≤ (other.first : Int) + run.offset)
    (moves : other.Moves point) :
    (run.imageOf other).Moves (run.image point) := by
  obtain ⟨notBefore, notAfter, onStep⟩ := moves
  have notNegative : 0 ≤ (point : Int) + run.offset := by omega
  have sameDistance : run.image point - run.image other.first = point - other.first := by
    simp only [image]
    omega
  refine ⟨?_, ?_, ?_⟩
  · simp only [imageOf, image]
    omega
  · simp only [imageOf, image]
    omega
  · change (run.image point - run.image other.first) % other.step = 0
    rw [sameDistance, onStep]

/-! ## Looking up -/

theorem find?_eq
    (runs : List CaseRun)
    (point : Nat) :
    find? runs point =
      (runs.find? fun run => decide (run.Moves point)).map fun run => run.image point := by
  have sameTest (run : CaseRun) :
      (decide (run.first ≤ point) && decide (point ≤ run.last) &&
          (point - run.first) % run.step == 0) =
        decide (run.Moves point) := by
    rw [Bool.eq_iff_iff, decide_eq_true_iff, Moves]
    simp [and_assoc]
  rw [find?]
  simp only [sameTest]
  rfl

theorem find?_eq_none_iff :
    find? runs point = none ↔ ∀ run ∈ runs, ¬run.Moves point := by
  simp [find?_eq]

theorem exists_of_find?_eq_some
    {target : Nat}
    (isFound : find? runs point = some target) :
    ∃ run ∈ runs, run.Moves point ∧ target = run.image point := by
  rw [find?_eq, Option.map_eq_some_iff] at isFound
  obtain ⟨run, isFirst, rfl⟩ := isFound
  exact ⟨run, List.mem_of_find?_eq_some isFirst, by simpa using List.find?_some isFirst, rfl⟩

/-- A code point before all later runs is looked up in the first one only. -/
theorem find?_cons_of_before
    (before : ∀ other ∈ others, point < other.first) :
    find? (run :: others) point = find? [run] point := by
  have notLater : others.find? (fun other => decide (other.Moves point)) = none := by
    rw [List.find?_eq_none]
    intro other isOther moves
    exact absurd (of_decide_eq_true moves).1 (not_le.mpr (before other isOther))
  rw [find?_eq, find?_eq, List.find?_cons, List.find?_cons, notLater, List.find?_nil]

/-- A run stands behind another one and has code points. -/
def Follows (run next : CaseRun) : Prop :=
  run.last < next.first ∧ next.first ≤ next.last

instance (run next : CaseRun) : Decidable (run.Follows next) :=
  inferInstanceAs (Decidable (_ ∧ _))

theorem Follows.trans
    (follows : run.Follows next)
    (followsToo : next.Follows other) :
    run.Follows other :=
  ⟨follows.1.trans_le (follows.2.trans followsToo.1.le), followsToo.2⟩

instance : IsTrans CaseRun Follows :=
  ⟨fun _ _ _ => Follows.trans⟩

/-- Of runs that follow one another only one moves a code point. -/
theorem find?_of_moves
    (chain : runs.IsChain Follows)
    (member : run ∈ runs)
    (moves : run.Moves point) :
    find? runs point = some (run.image point) := by
  have atMostOne :
      runs.Pairwise fun left right => left.Moves point → right.Moves point → left = right :=
    (List.isChain_iff_pairwise.mp chain).imp fun follows movesLeft movesRight =>
      absurd (movesLeft.2.1.trans_lt follows.1) (not_lt.mpr movesRight.1)
  have : Std.Symm fun left right : CaseRun =>
      left.Moves point → right.Moves point → left = right :=
    ⟨fun _ _ same movesLeft movesRight => (same movesRight movesLeft).symm⟩
  have onlyOne := atMostOne.forall_of_forall fun _ _ _ _ => rfl
  cases isFound : find? runs point with
  | none =>
      exact absurd moves (find?_eq_none_iff.mp isFound run member)
  | some target =>
      obtain ⟨other, isOther, movesToo, rfl⟩ := exists_of_find?_eq_some isFound
      rw [onlyOne isOther member movesToo moves]

/-! ## Code points as bits -/

/-- The multiples of a step below its product with a count, as bits. -/
def progressionBits (step : Nat) : Nat → Nat
  | 0 => 0
  | count + 1 => progressionBits step count <<< step ||| 1

/-- The code points that a run moves, as bits. -/
def bits (run : CaseRun) : Nat :=
  progressionBits run.step ((run.last - run.first) / run.step + 1) <<< run.first

/-- The code points that some runs move, as bits. -/
def pointBits (runs : List CaseRun) : Nat :=
  runs.foldr (fun run points => run.bits ||| points) 0

/-- No code point is moved by a run of either list. -/
def AreApart (runs others : List CaseRun) : Prop :=
  pointBits runs &&& pointBits others = 0

instance (runs others : List CaseRun) : Decidable (AreApart runs others) :=
  inferInstanceAs (Decidable (_ = _))

/-- What a run of the first list moves is also moved by one of the second. -/
def AreWithin (runs others : List CaseRun) : Prop :=
  pointBits runs ||| pointBits others = pointBits others

instance (runs others : List CaseRun) : Decidable (AreWithin runs others) :=
  inferInstanceAs (Decidable (_ = _))

theorem testBit_progressionBits_iff
    {step count distance : Nat} :
    (progressionBits step count).testBit distance = true ↔
      ∃ place < count, distance = step * place := by
  induction count generalizing distance with
  | zero =>
      simp [progressionBits]
  | succ count inductionHypothesis =>
      have isOne : (1 : Nat).testBit distance = true ↔ distance = 0 := by
        rw [Nat.testBit_one_eq_true_iff_self_eq_zero]
      rw [progressionBits, Nat.testBit_or, Nat.testBit_shiftLeft, Bool.or_eq_true,
        Bool.and_eq_true, decide_eq_true_iff, inductionHypothesis, isOne]
      constructor
      · rintro (⟨above, place, inside, isMultiple⟩ | rfl)
        · exact ⟨place + 1, Nat.succ_lt_succ inside, by rw [Nat.mul_succ]; omega⟩
        · exact ⟨0, count.succ_pos, rfl⟩
      · rintro ⟨_ | place, inside, rfl⟩
        · exact .inr rfl
        · exact .inl
            ⟨Nat.le_mul_of_pos_right step place.succ_pos, place, Nat.lt_of_succ_lt_succ inside,
              by rw [Nat.mul_succ, Nat.add_sub_cancel]⟩

theorem testBit_bits
    (moves : run.Moves point) :
    run.bits.testBit point = true := by
  obtain ⟨notBefore, notAfter, onStep⟩ := moves
  rw [bits, Nat.testBit_shiftLeft, decide_eq_true notBefore, Bool.true_and,
    testBit_progressionBits_iff]
  exact
    ⟨(point - run.first) / run.step, Nat.lt_succ_of_le (Nat.div_le_div_right (by omega)),
      (Nat.mul_div_cancel' (Nat.dvd_of_mod_eq_zero onStep)).symm⟩

theorem moves_of_testBit
    (notEmpty : run.first ≤ run.last)
    (isPoint : run.bits.testBit point = true) :
    run.Moves point := by
  rw [bits, Nat.testBit_shiftLeft, Bool.and_eq_true, decide_eq_true_iff,
    testBit_progressionBits_iff] at isPoint
  obtain ⟨notBefore, place, inside, isMultiple⟩ := isPoint
  have notAfter : run.step * place ≤ run.last - run.first :=
    (Nat.mul_le_mul_left run.step (Nat.le_of_lt_succ inside)).trans (Nat.mul_div_le _ _)
  exact ⟨notBefore, by omega, by rw [isMultiple, Nat.mul_mod_right]⟩

theorem testBit_pointBits_iff :
    (pointBits runs).testBit point = true ↔ ∃ run ∈ runs, run.bits.testBit point = true := by
  induction runs with
  | nil =>
      simp [pointBits]
  | cons first rest inductionHypothesis =>
      rw [pointBits, List.foldr_cons, Nat.testBit_or, Bool.or_eq_true, ← pointBits,
        inductionHypothesis, List.exists_mem_cons_iff]

theorem AreApart.not_moves
    (apart : AreApart runs others)
    (member : run ∈ runs)
    (moves : run.Moves point) :
    ∀ other ∈ others, ¬other.Moves point := by
  intro other isOther movesToo
  have common : (pointBits runs &&& pointBits others).testBit point = true := by
    rw [Nat.testBit_and, testBit_pointBits_iff.mpr ⟨run, member, testBit_bits moves⟩,
      testBit_pointBits_iff.mpr ⟨other, isOther, testBit_bits movesToo⟩]
    rfl
  rw [apart, Nat.zero_testBit] at common
  cases common

theorem AreWithin.exists_moves
    (within : AreWithin runs others)
    (areNotEmpty : ∀ other ∈ others, other.first ≤ other.last)
    (member : run ∈ runs)
    (moves : run.Moves point) :
    ∃ other ∈ others, other.Moves point := by
  have isPoint : (pointBits runs ||| pointBits others).testBit point = true := by
    rw [Nat.testBit_or, testBit_pointBits_iff.mpr ⟨run, member, testBit_bits moves⟩,
      Bool.true_or]
  rw [within, testBit_pointBits_iff] at isPoint
  obtain ⟨other, isOther, isPoint⟩ := isPoint
  exact ⟨other, isOther, moves_of_testBit (areNotEmpty other isOther) isPoint⟩

/-! ## Runs inside of runs -/

/-- A run moves all the code points that another one moves. -/
def covers (run other : CaseRun) : Bool :=
  run.first ≤ other.first && other.last ≤ run.last &&
    (other.first - run.first) % run.step == 0 &&
      (other.step % run.step == 0 || other.first == other.last)

theorem moves_of_covers
    (isCovered : run.covers other = true)
    (moves : other.Moves point) :
    run.Moves point := by
  simp only [covers, Bool.and_eq_true, Bool.or_eq_true, decide_eq_true_eq, beq_iff_eq] at isCovered
  obtain ⟨⟨⟨startsInside, endsInside⟩, startsOnStep⟩, stepsAlong⟩ := isCovered
  obtain ⟨notBefore, notAfter, onStep⟩ := moves
  refine ⟨by omega, by omega, ?_⟩
  have parts : point - run.first = (point - other.first) + (other.first - run.first) := by omega
  have onOwnStep : run.step ∣ point - other.first := by
    rcases stepsAlong with divides | isSingle
    · exact (Nat.dvd_of_mod_eq_zero divides).trans (Nat.dvd_of_mod_eq_zero onStep)
    · rw [show point - other.first = 0 by omega]
      exact Nat.dvd_zero _
  rw [parts]
  exact Nat.mod_eq_zero_of_dvd (Nat.dvd_add onOwnStep (Nat.dvd_of_mod_eq_zero startsOnStep))

end Tabular.Text.CaseRun
