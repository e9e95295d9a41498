import Tabular.Proofs.Typing.Dominance

namespace Tabular

/-!
# Percentages of counts

A percentage is computed in three rounded steps: the quotient of the counts, its hundredfold, and a
half more. The errors of the steps are far smaller than the distance to the next integer, unless the
exact percentage lies halfway between two integers. Of the halfway percentages, which depend on the
quotient alone, four come out one too small.
-/

namespace Binary64

/-- A rational that is neither tiny nor huge is rounded with a small relative error. -/
theorem exists_rounded_near
    {value : ℚ}
    (low : (1 : ℚ) / 2 ^ 64 ≤ value)
    (high : value ≤ 2 ^ 64) :
    ∃ rounded, (nearest value).value? = some rounded ∧ |rounded - value| ≤ value / 2 ^ 53 := by
  have positive : 0 < value := lt_of_lt_of_le (by positivity) low
  have limit : ((2 ^ 64 : Nat) : ℚ) < intLimit := by
    exact_mod_cast (by decide +kernel : 2 ^ 64 < intLimit)
  have inRange : |value| < intLimit := by
    rw [abs_of_pos positive]
    exact high.trans_lt (by exact_mod_cast limit)
  obtain ⟨rounded, isRounded⟩ :=
    isFinite_iff_exists_value.mp ((isFinite_nearest_iff value).mpr inRange)
  have normal : (2 : ℚ) ^ (-1022 : Int) ≤ |value| := by
    rw [abs_of_pos positive]
    refine le_trans ?_ low
    rw [one_div, ← zpow_natCast, ← zpow_neg]
    exact zpow_le_zpow_right₀ (by norm_num) (by norm_num)
  refine ⟨rounded, isRounded, ?_⟩
  have close := abs_nearest_sub_le isRounded normal
  rwa [abs_of_pos positive] at close

/-- A number is rounded half up by adding a half and taking the integer below. -/
theorem roundToWhole_of_value
    {number : Binary64}
    {value shifted : ℚ}
    (isValue : number.value? = some value)
    (isShifted : (nearest (value + 1 / 2)).value? = some shifted)
    {whole : Nat}
    (isWhole : ⌊shifted⌋ = whole)
    (small : whole < Nat.pow 2 53) :
    number.roundToWhole = .ok whole := by
  have one : (ofNat 1).value? = some ((1 : Nat) : ℚ) := value?_ofNat (by decide)
  have scaled : (number.mul (ofNat 1)).value? = some value := by
    rw [value?_mul isValue one, Nat.cast_one, mul_one]
    rcases eq_or_ne value 0 with rfl | nonzero
    · rw [nearest_zero, value?_zero]
    · rw [nearest_of_value isValue nonzero, isValue]
  have added : ((number.mul (ofNat 1)).add (ofRatio false 1 2)).value? = some shifted :=
    (value?_add scaled value?_half).trans isShifted
  have wholeValue : (ofNat whole).value? = some (((whole : Nat) : Int) : ℚ) := by
    rw [value?_ofNat small, Int.cast_natCast]
  have back : Amount.quotient (whole : Int) ((1 : Nat) : Int) = .ok (ofNat whole) := by
    obtain ⟨_, _, _, _, isFinite, -⟩ := exists_of_value wholeValue
    have isRatio : (decide ((whole : Int) < 0) != decide (((1 : Nat) : Int) < 0)) = false := by
      simp
    rw [Amount.quotient, isRatio, Int.natAbs_natCast, Int.natAbs_natCast, ← ofNat, isFinite]
  have floored : Amount.floorOf (ofNat whole) = .ok (whole : Int) := by
    rw [Amount.floorOf_of_value wholeValue, Int.floor_intCast]
  have rounds : number.roundHalfUp 0 = .ok (.whole whole) := by
    rw [Amount.roundHalfUp_of_isFinite Amount.isScale_zero (isFinite_of_value isValue),
      Amount.floorOf_of_value added, isWhole]
    simp only [bind, Except.bind, back, floored, ↓reduceIte]
  rw [roundToWhole, rounds]
  rfl

end Binary64

variable {part total : Nat}

/-! ## Percentages between halves -/

/-- The quotient of counts is close to the exact one, and not zero. -/
theorem exists_quotient_near
    (positive : 0 < part)
    (within : part ≤ total)
    (small : total < Nat.pow 2 31) :
    ∃ quotient : ℚ,
      ((Binary64.ofNat part).div (.ofNat total)).value? = some quotient ∧
        |quotient - part / total| ≤ 1 / 2 ^ 53 ∧ (1 : ℚ) / 2 ^ 32 ≤ quotient := by
  have totalPositive : (0 : ℚ) < total := by exact_mod_cast positive.trans_le within
  have bound : (total : ℚ) ≤ 2 ^ 31 := by exact_mod_cast small.le
  have low : (1 : ℚ) / 2 ^ 31 ≤ part / total := by
    rw [div_le_div_iff₀ (by positivity) totalPositive, one_mul]
    have atLeast : (1 : ℚ) ≤ part := by exact_mod_cast positive
    nlinarith
  have high : (part : ℚ) / total ≤ 1 := by
    rw [div_le_one totalPositive]
    exact_mod_cast within
  have limit : Nat.pow 2 31 < Nat.pow 2 53 := by decide
  obtain ⟨quotient, isQuotient, close⟩ := Binary64.exists_rounded_near
    (low.trans' (by norm_num)) (high.trans (by norm_num))
  refine ⟨quotient, ?_, close.trans (by linarith), ?_⟩
  · rw [Binary64.value?_div (Binary64.value?_ofNat (by omega)) (Binary64.value?_ofNat (by omega))
      totalPositive.ne', isQuotient]
  · have near := (abs_le.mp close).1
    linarith

/-- All three steps together are off by less than any count below `2 ^ 31` can tell. -/
theorem exists_percent_near
    (positive : 0 < part)
    (within : part ≤ total)
    (small : total < Nat.pow 2 31) :
    ∃ percent shifted : ℚ,
      (((Binary64.ofNat part).div (.ofNat total)).mul (.ofNat 100)).value? = some percent ∧
        (Binary64.nearest (percent + 1 / 2)).value? = some shifted ∧
          |shifted - (part / total * 100 + 1 / 2)| ≤ 1 / 2 ^ 43 := by
  obtain ⟨quotient, isQuotient, quotientNear, low⟩ := exists_quotient_near positive within small
  have hundred : (Binary64.ofNat 100).value? = some ((100 : Nat) : ℚ) :=
    Binary64.value?_ofNat (by decide)
  have atMost : (part : ℚ) / total ≤ 1 := by
    rw [div_le_one (by exact_mod_cast positive.trans_le within)]
    exact_mod_cast within
  obtain ⟨quotientLow, quotientHigh⟩ := abs_le.mp quotientNear
  have quotientSmall : quotient ≤ 2 := by linarith
  have productLow : (1 : ℚ) / 2 ^ 64 ≤ quotient * (100 : Nat) := by
    push_cast
    linarith
  obtain ⟨percent, isPercent, percentNear⟩ :=
    Binary64.exists_rounded_near productLow (by push_cast; linarith)
  push_cast at percentNear
  obtain ⟨percentLow, percentHigh⟩ := abs_le.mp percentNear
  have percentSmall : percent ≤ 300 := by linarith
  have percentPositive : 0 ≤ percent := by linarith
  have shiftedAtLeast : (1 : ℚ) / 2 ^ 64 ≤ percent + 1 / 2 := by linarith
  obtain ⟨shifted, isShifted, shiftedNear⟩ :=
    Binary64.exists_rounded_near shiftedAtLeast (by linarith)
  obtain ⟨shiftedLow, shiftedHigh⟩ := abs_le.mp shiftedNear
  refine ⟨percent, shifted, (Binary64.value?_mul isQuotient hundred).trans isPercent, isShifted, ?_⟩
  rw [abs_le]
  constructor <;> linarith

/-- The percentage of a part, rounded half up in exact numbers. -/
def halfUpPercent (part total : Nat) : Nat :=
  (200 * part + total) / (2 * total)

theorem halfUpPercent_le
    (positive : 0 < total)
    (within : part ≤ total) :
    halfUpPercent part total ≤ 100 := by
  rw [halfUpPercent]
  exact Nat.le_of_lt_succ (Nat.div_lt_of_lt_mul (by omega))

/--
Away from the halves, the error of the steps makes no difference: the exact percentage and a half
lies between two integers, at least one part away from both.
-/
theorem percentOf_of_not_halfway
    (positive : 0 < part)
    (within : part ≤ total)
    (small : total < Nat.pow 2 31)
    (notHalfway : ¬2 * total ∣ 200 * part + total) :
    percentOf part total = .ok (halfUpPercent part total) := by
  obtain ⟨percent, shifted, isPercent, isShifted, near⟩ :=
    exists_percent_near positive within small
  have totalPositive : (0 : ℚ) < total := by exact_mod_cast positive.trans_le within
  have bound : (total : ℚ) ≤ 2 ^ 31 := by exact_mod_cast small.le
  have parts := Nat.div_add_mod (200 * part + total) (2 * total)
  have someRest : 1 ≤ (200 * part + total) % (2 * total) :=
    Nat.pos_of_ne_zero (mt Nat.dvd_of_mod_eq_zero notHalfway)
  have notAll : (200 * part + total) % (2 * total) + 1 ≤ 2 * total :=
    Nat.mod_lt _ (by omega)
  rw [← halfUpPercent] at parts
  generalize (200 * part + total) % (2 * total) = rest at parts someRest notAll
  have exact :
      (part : ℚ) / total * 100 + 1 / 2 = halfUpPercent part total + rest / (2 * total) := by
    have counted : (200 * part + total : ℚ) = 2 * total * halfUpPercent part total + rest := by
      exact_mod_cast parts.symm
    field_simp
    linarith
  have oneApart : (1 : ℚ) / 2 ^ 43 < 1 / (2 * total) := by
    rw [div_lt_div_iff_of_pos_left one_pos (by positivity) (by positivity)]
    linarith
  have above : (1 : ℚ) / (2 * total) ≤ rest / (2 * total) := by
    gcongr
    exact_mod_cast someRest
  have below : (rest : ℚ) / (2 * total) ≤ 1 - 1 / (2 * total) := by
    rw [le_sub_iff_add_le, ← add_div, div_le_one (by positivity)]
    exact_mod_cast notAll
  obtain ⟨shiftedLow, shiftedHigh⟩ := abs_le.mp near
  rw [exact] at shiftedLow shiftedHigh
  have isWhole : ⌊shifted⌋ = (halfUpPercent part total : Int) := by
    rw [Int.floor_eq_iff]
    push_cast
    constructor <;> linarith
  have fits : halfUpPercent part total < Nat.pow 2 53 :=
    (halfUpPercent_le (by omega) within).trans_lt (by decide)
  exact Binary64.roundToWhole_of_value isPercent isShifted isWhole fits

/-! ## Percentages halfway -/

/-- The halfway percentages that are rounded down, by twice their value. -/
def fallShort : List Nat :=
  [29, 57, 113, 115]

/-- What is computed for the percentage halfway below a whole one. -/
theorem percentOf_two_hundred :
    ∀ whole ≤ 100, 0 < whole →
      percentOf (2 * whole - 1) 200 = .ok (whole - if 2 * whole - 1 ∈ fallShort then 1 else 0) := by
  decide +kernel

/-- Counts with the same quotient have the same percentage. -/
theorem percentOf_congr
    (positive : 0 < part)
    (within : part ≤ total)
    (small : total < Nat.pow 2 31)
    {other otherTotal : Nat}
    (otherSmall : other < Nat.pow 2 53)
    (otherTotalSmall : otherTotal < Nat.pow 2 53)
    (otherTotalPositive : 0 < otherTotal)
    (same : part * otherTotal = other * total) :
    percentOf part total = percentOf other otherTotal := by
  obtain ⟨quotient, isQuotient, -, low⟩ := exists_quotient_near positive within small
  have limit : Nat.pow 2 31 < Nat.pow 2 53 := by decide
  have totalNonzero : (total : ℚ) ≠ 0 := by exact_mod_cast (positive.trans_le within).ne'
  have otherTotalNonzero : (otherTotal : ℚ) ≠ 0 := by exact_mod_cast otherTotalPositive.ne'
  have sameRatio : (part : ℚ) / total = other / otherTotal := by
    rw [div_eq_div_iff totalNonzero otherTotalNonzero]
    exact_mod_cast same
  have isQuotientToo : ((Binary64.ofNat other).div (.ofNat otherTotal)).value? = some quotient := by
    rw [← isQuotient,
      Binary64.value?_div (Binary64.value?_ofNat (by omega)) (Binary64.value?_ofNat (by omega))
        totalNonzero,
      Binary64.value?_div (Binary64.value?_ofNat otherSmall)
        (Binary64.value?_ofNat otherTotalSmall) otherTotalNonzero, sameRatio]
  have nonzero : quotient ≠ 0 := by
    rintro rfl
    exact absurd low (not_le.mpr (by positivity))
  rw [percentOf, percentOf, ← Binary64.nearest_of_value isQuotient nonzero,
    ← Binary64.nearest_of_value isQuotientToo nonzero]

/-- The percentage lies halfway between two integers and is rounded down all the same. -/
def FallsShort (part total : Nat) : Prop :=
  ∃ double ∈ fallShort, 200 * part = double * total

instance (part total : Nat) : Decidable (FallsShort part total) :=
  inferInstanceAs (Decidable (∃ double ∈ fallShort, 200 * part = double * total))

/--
Halves fall short where the same half of 200 cells does, as the result depends on the odd number of
halves only.
-/
theorem percentOf_of_halfway
    (positive : 0 < part)
    (within : part ≤ total)
    (small : total < Nat.pow 2 31)
    (halfway : 2 * total ∣ 200 * part + total) :
    percentOf part total =
      .ok (halfUpPercent part total - if FallsShort part total then 1 else 0) := by
  have totalPositive : 0 < total := positive.trans_le within
  obtain ⟨whole, isWhole⟩ := halfway
  have isOdd : 200 * part = (2 * whole - 1) * total := by
    rw [Nat.sub_mul, one_mul, mul_right_comm, ← isWhole]
    omega
  have wholePositive : 0 < whole := by
    refine Nat.pos_of_ne_zero fun isZero => ?_
    rw [isZero, mul_zero] at isWhole
    omega
  have wholeSmall : 2 * whole - 1 ≤ 200 := by
    refine Nat.le_of_mul_le_mul_right ?_ totalPositive
    rw [← isOdd]
    exact Nat.mul_le_mul_left 200 within
  have isHalfUp : halfUpPercent part total = whole := by
    rw [halfUpPercent, isWhole, Nat.mul_div_cancel_left whole (by omega)]
  have sameShort : FallsShort part total ↔ 2 * whole - 1 ∈ fallShort := by
    constructor
    · rintro ⟨double, member, isDouble⟩
      have same : double = 2 * whole - 1 :=
        Nat.eq_of_mul_eq_mul_right totalPositive (isDouble.symm.trans isOdd)
      exact same ▸ member
    · exact fun member => ⟨2 * whole - 1, member, isOdd⟩
  have fits : 2 * whole - 1 < Nat.pow 2 53 := wholeSmall.trans_lt (by decide)
  rw [percentOf_congr positive within small fits (by decide) (by decide)
      ((Nat.mul_comm part 200).trans isOdd),
    percentOf_two_hundred whole (by omega) wholePositive, isHalfUp]
  simp only [sameShort]

/-- Only halves fall short. -/
theorem FallsShort.halfway
    (fallsShort : FallsShort part total) :
    2 * total ∣ 200 * part + total := by
  obtain ⟨odd, member, isOdd⟩ := fallsShort
  have isSum : 200 * part + total = (odd + 1) * total := by
    rw [isOdd, Nat.succ_mul]
  have areOdd : ∀ odd ∈ fallShort, 2 ∣ odd + 1 := by
    decide
  rw [isSum]
  exact Nat.mul_dvd_mul_right (areOdd odd member) total

/-- Percentages are rounded half up, apart from the four halves that fall short. -/
theorem percentOf_eq
    (positive : 0 < part)
    (within : part ≤ total)
    (small : total < Nat.pow 2 31) :
    percentOf part total =
      .ok (halfUpPercent part total - if FallsShort part total then 1 else 0) := by
  by_cases halfway : 2 * total ∣ 200 * part + total
  · exact percentOf_of_halfway positive within small halfway
  · rw [percentOf_of_not_halfway positive within small halfway,
      if_neg fun fallsShort => halfway fallsShort.halfway, sub_zero]

/-! ## Percentages of kinds -/

variable {cells : List Cell} {info : SmartTypeInfo}

/-- A column whose cells can be counted has a description. -/
theorem exists_smartTypeOf_of_small
    (threshold : Amount)
    (small : filledCount cells < Nat.pow 2 31) :
    ∃ info, smartTypeOf threshold cells = .ok info := by
  have inRange : filledCount cells < Binary64.intLimit :=
    small.trans (by decide +kernel)
  obtain ⟨found, isFound, among⟩ := exists_dominantKind? threshold inRange (countsOf cells)
  rw [smartTypeOf_eq, isFound]
  cases found with
  | none =>
      exact ⟨{}, rfl⟩
  | some entry =>
      obtain ⟨kind, valid⟩ := entry
      obtain ⟨occurs, isKind, isCount⟩ := mem_countsOf_iff.mp (among _ rfl)
      dsimp only at occurs isKind isCount
      subst isCount
      have isPercent := percentOf_eq (List.count_pos_iff.mpr occurs)
        (count_kindsOf_le isKind cells) small
      exact ⟨_, congrArg (Except.map _) isPercent⟩

theorem percentOf_of_smartTypeOf
    {threshold : Amount}
    (described : smartTypeOf threshold cells = .ok info)
    (isKind : info.kind ≠ .none) :
    percentOf ((kindsOf cells).count info.kind) (filledCount cells) = .ok info.validPercent := by
  have counted := (describesKinds_of_smartTypeOf described).validCount_eq isKind
  rw [smartTypeOf_eq] at described
  obtain ⟨found, -, described⟩ := Outcome.bind_eq_ok_iff.mp described
  cases found with
  | none =>
      cases described
      exact absurd rfl isKind
  | some entry =>
      obtain ⟨percent, isPercent, described⟩ := Outcome.bind_eq_ok_iff.mp described
      cases described
      rw [← Int.natCast_inj.mp counted]
      exact isPercent

/-- The reported kind is that of enough cells. -/
theorem DescribesKinds.reaches
    {threshold : Amount}
    (describes : DescribesKinds threshold cells info)
    (isKind : info.kind ≠ .none) :
    Reaches threshold (filledCount cells) ((kindsOf cells).count info.kind) := by
  obtain ⟨kind, isKindToo, -, reaches⟩ := describes.isKind_iff.mp isKind
  exact reaches.mono ((describes.leads isKind).most kind isKindToo)
    (count_kindsOf_le isKind cells)

/-- A threshold of a half is reached by half of the cells. -/
theorem le_of_reaches_half
    (small : total < Nat.pow 2 53)
    (within : part ≤ total)
    (reaches : Reaches ({} : Settings).smartTypeThreshold total part) :
    total ≤ 2 * part := by
  obtain ⟨least, isLeast, isAtMost⟩ := reaches
  obtain ⟨number, isReal, isProduct⟩ := Outcome.bind_eq_ok_iff.mp isLeast
  obtain ⟨rfl, -⟩ := Binary64.eq_ofNat_of_realOfInt isReal
  cases isProduct
  have exact := @Binary64.value?_nearest total (-1) (by simpa using small) (by decide) (by decide)
  have isHalf :
      ((Binary64.ofNat total).mul (.ofRatio false 1 2)).value? = some (total * (1 / 2) : ℚ) := by
    rw [Binary64.value?_mul (Binary64.value?_ofNat small) Binary64.value?_half]
    norm_num at exact ⊢
    exact exact
  have atMost := (Binary64.le_iff_of_value isHalf
    (Binary64.value?_ofNat (within.trans_lt small))).mp isAtMost
  have doubled : (total : ℚ) ≤ 2 * part := by linarith
  exact_mod_cast doubled

/--
With the default threshold, the percentage of the dominant kind is rounded half up, unless it is
`56.5` or `57.5`: these are rounded down. So it is one too small for 113 of 200 cells, and right
whenever the exact percentage is not halfway between two integers.
-/
theorem validPercent_of_default_threshold
    {rows : List Row}
    {column : String}
    (isColumn : column ∈ columnsOf rows)
    (small : filledCount (rows.map fun row => row.cell column) < Nat.pow 2 31) :
    let threshold := ({} : Settings).smartTypeThreshold
    let cells := rows.map fun row => row.cell column
    let total := filledCount cells
    ∃ info, smartTypeOf threshold cells = .ok info ∧
      (∀ infos, detectSmartTypes threshold rows = .ok infos → infos.find? column = some info) ∧
        (info.kind ≠ .none →
          let valid := (kindsOf cells).count info.kind
          info.validCount = valid ∧
            info.validPercent =
              ((200 * valid + total) / (2 * total) : Nat) -
                if 200 * valid = 113 * total ∨ 200 * valid = 115 * total then 1 else 0) := by
  intro threshold cells total
  obtain ⟨info, described⟩ := exists_smartTypeOf_of_small threshold small
  refine ⟨info, described, ?_, ?_⟩
  · intro infos detected
    obtain ⟨-, found⟩ := (describeColumns_eq_ok_iff (columnsOf_nodup rows)).mp detected
    obtain ⟨infoToo, describedToo, isFound⟩ := found column isColumn
    rw [isFound, Except.ok.inj (describedToo.symm.trans described)]
  · intro isKind valid
    have describes := describesKinds_of_smartTypeOf described
    have within : valid ≤ total := count_kindsOf_le isKind cells
    have positive : 0 < valid := List.count_pos_iff.mpr (describes.leads isKind).isFound
    have atLeastHalf : total ≤ 2 * valid :=
      le_of_reaches_half (small.trans (by decide)) within (describes.reaches isKind)
    have percent := percentOf_of_smartTypeOf described isKind
    rw [percentOf_eq positive within small, Except.ok.injEq] at percent
    have shortIff :
        FallsShort valid total ↔ 200 * valid = 113 * total ∨ 200 * valid = 115 * total := by
      simp only [FallsShort, fallShort, List.mem_cons, List.not_mem_nil, or_false,
        exists_eq_or_imp, exists_eq_left]
      omega
    refine ⟨describes.validCount_eq isKind, ?_⟩
    rw [← percent, halfUpPercent]
    simp only [shortIff]

namespace SmartKind.Sample

/-- 113 rows with an address, and 87 rows with a telephone number. -/
def contacts : List Row :=
  List.replicate 113 (.ofList [("c", .text "a@b.co")]) ++
    List.replicate 87 (.ofList [("c", .text "555-1234")])

/-- Of 200 cells 113 are addresses, which is 56.5 percent and reported as 56. -/
theorem validPercent_of_contacts :
    filledCount (contacts.map fun row => row.cell "c") = 200 ∧
      ∃ info,
        smartTypeOf ({} : Settings).smartTypeThreshold (contacts.map fun row => row.cell "c") =
            .ok info ∧
          info.kind ≠ .none ∧ info.validCount = 113 ∧ info.validPercent = 56 := by
  have areCells : (contacts.map fun row => row.cell "c") =
      List.replicate 113 (.text "a@b.co") ++ List.replicate 87 (.text "555-1234") := by
    rw [contacts, List.map_append, List.map_replicate, List.map_replicate]
    rfl
  have isEmail : (Cell.text "a@b.co").smartKind = .email := by
    decide +kernel
  have isPhone : (Cell.text "555-1234").smartKind = .phone := by
    decide +kernel
  have areKinds : kindsOf (contacts.map fun row => row.cell "c") =
      List.replicate 113 .email ++ List.replicate 87 .phone := by
    rw [areCells, kindsOf, List.map_append, List.map_replicate, List.map_replicate, isEmail,
      isPhone]
  have areFilled : filledCount (contacts.map fun row => row.cell "c") = 200 := by
    rw [areCells]
    decide +kernel
  have addresses :
      (List.replicate 113 SmartKind.email ++ List.replicate 87 SmartKind.phone).count .email =
        113 := by
    decide +kernel
  have isColumn : "c" ∈ columnsOf contacts := by
    decide
  have small : filledCount (contacts.map fun row => row.cell "c") < Nat.pow 2 31 := by
    rw [areFilled]
    decide
  obtain ⟨info, described, -, reported⟩ := validPercent_of_default_threshold isColumn small
  have describes := describesKinds_of_smartTypeOf described
  have isKind : info.kind ≠ .none := by
    have isAtMost : (Binary64.ofNat 100).le (.ofNat 113) = true := by
      decide +kernel
    rw [describes.isKind_iff, areKinds, areFilled]
    refine ⟨.email, nofun, ?_⟩
    rw [addresses]
    exact ⟨by decide, .real (.ofNat 100), by decide +kernel, isAtMost⟩
  have isKindOfAddresses : info.kind = .email := by
    have leads := describes.leads isKind
    rw [areKinds] at leads
    rcases List.mem_append.mp leads.isFound with isAddress | isNumber
    · exact List.eq_of_mem_replicate isAddress
    · have more := leads.most .email nofun
      rw [List.eq_of_mem_replicate isNumber] at more
      exact absurd more (by decide +kernel)
  obtain ⟨isCount, isPercent⟩ := reported isKind
  rw [areKinds, isKindOfAddresses, addresses] at isCount isPercent
  rw [areFilled] at isPercent
  exact ⟨areFilled, info, described, isKind, isCount, isPercent⟩

end SmartKind.Sample

end Tabular
