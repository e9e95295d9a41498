import Mathlib.Data.List.Chain
import Tabular.Text.Unit

namespace Tabular.Text

/-!
# Units and characters

A character is a code point that is no surrogate. The units of code points have sixteen bits, and
those of characters are read back as the characters: a half of a pair only stands beside the other
half. So code points in which no first half of a pair stands right before a second half, those of
texts among them, are told by their units.
-/

theorem toNat_lt
    (character : Char) :
    character.toNat < 0x110000 := by
  have valid := character.valid
  simp only [UInt32.isValidChar, Nat.isValidChar] at valid
  have : character.toNat = character.val.toNat := rfl
  omega

theorem isSurrogate_toNat
    (character : Char) :
    isSurrogate character.toNat = false := by
  have valid := character.valid
  simp only [UInt32.isValidChar, Nat.isValidChar] at valid
  have : character.toNat = character.val.toNat := rfl
  simp only [isSurrogate, isHighSurrogate, isLowSurrogate, Bool.or_eq_false_iff,
    Bool.and_eq_false_iff, decide_eq_false_iff_not]
  omega

theorem toNat_ofNat
    {point : Nat}
    (isCharacter : point.isValidChar) :
    (Char.ofNat point).toNat = point := by
  rw [Char.ofNat, dif_pos isCharacter]
  rfl

theorem isHighSurrogate_iff
    {unit : Nat} :
    isHighSurrogate unit ↔ 0xd800 ≤ unit ∧ unit ≤ 0xdbff := by
  simp [isHighSurrogate]

theorem isLowSurrogate_iff
    {unit : Nat} :
    isLowSurrogate unit ↔ 0xdc00 ≤ unit ∧ unit ≤ 0xdfff := by
  simp [isLowSurrogate]

/-- Every code point has units of sixteen bits. -/
theorem lt_of_mem_pointUnits
    {point unit : Nat}
    (isPoint : point < 0x110000)
    (isUnit : unit ∈ pointUnits point) :
    unit < 0x10000 := by
  rw [pointUnits] at isUnit
  split at isUnit
  · rw [List.mem_singleton.mp isUnit]
    assumption
  · rcases List.mem_cons.mp isUnit with isFirst | isSecond
    · omega
    · have isSecond := List.mem_singleton.mp isSecond
      omega

theorem lt_of_mem_units
    {text : String}
    {unit : Nat}
    (isUnit : unit ∈ units text) :
    unit < 0x10000 := by
  obtain ⟨character, -, isUnit⟩ := List.mem_flatMap.mp isUnit
  exact lt_of_mem_pointUnits (toNat_lt character) isUnit

theorem units_append
    (first second : String) :
    units (first ++ second) = units first ++ units second := by
  simp [units]

/-! ## Reading units -/

/-- A unit that is no first half stands for itself. -/
theorem pointsOfUnits_cons
    {unit : Nat}
    (notHigh : isHighSurrogate unit = false)
    (rest : List Nat) :
    pointsOfUnits (unit :: rest) = unit :: pointsOfUnits rest := by
  cases rest with
  | nil =>
      rfl
  | cons next rest =>
      rw [pointsOfUnits, notHigh, Bool.false_and, if_neg Bool.false_ne_true]

/-- The halves of a code point above the basic plane stand for it. -/
theorem joinedPoint_halves
    {point : Nat}
    (isLarge : 0x10000 ≤ point) :
    joinedPoint (0xd800 + (point - 0x10000) / 1024) (0xdc00 + (point - 0x10000) % 1024) =
      point := by
  unfold joinedPoint
  omega

/-- The halves of a pair are joined. -/
theorem pointsOfUnits_pair
    {high low : Nat}
    (isHigh : isHighSurrogate high)
    (isLow : isLowSurrogate low)
    (rest : List Nat) :
    pointsOfUnits (high :: low :: rest) = joinedPoint high low :: pointsOfUnits rest := by
  rw [pointsOfUnits, isHigh, isLow]
  rfl

/-- The units of a code point that is no first half of a pair are read as the code point. -/
theorem pointsOfUnits_append
    {point : Nat}
    (isPoint : point < 0x110000)
    (notHigh : isHighSurrogate point = false)
    (rest : List Nat) :
    pointsOfUnits (pointUnits point ++ rest) = point :: pointsOfUnits rest := by
  rw [pointUnits]
  split
  · exact pointsOfUnits_cons notHigh rest
  · have isHigh : isHighSurrogate (0xd800 + (point - 0x10000) / 1024) :=
      isHighSurrogate_iff.mpr (by omega)
    have isLow : isLowSurrogate (0xdc00 + (point - 0x10000) % 1024) :=
      isLowSurrogate_iff.mpr (by omega)
    rw [List.cons_append, List.cons_append, List.nil_append, pointsOfUnits_pair isHigh isLow,
      joinedPoint_halves (by omega)]

/-- The units of a code point begin with a second half only if it is one. -/
theorem exists_first_unit
    {point : Nat}
    (isPoint : point < 0x110000)
    (notLow : isLowSurrogate point = false) :
    ∃ unit rest, pointUnits point = unit :: rest ∧ isLowSurrogate unit = false := by
  rw [pointUnits]
  split
  · exact ⟨point, [], rfl, notLow⟩
  · have isFirstHalf : ¬isLowSurrogate (0xd800 + (point - 0x10000) / 1024) := by
      rw [isLowSurrogate_iff]
      omega
    exact ⟨_, _, rfl, Bool.eq_false_iff.mpr isFirstHalf⟩

/-- No first half of a pair of surrogates stands right before a second half. -/
def HasNoPairs (points : List Nat) : Prop :=
  points.IsChain fun first second => isHighSurrogate first → isLowSurrogate second = false

instance : DecidablePred HasNoPairs :=
  fun points =>
    inferInstanceAs
      (Decidable
        (points.IsChain fun first second =>
          isHighSurrogate first → isLowSurrogate second = false))

/-- Without surrogates that form a pair, the units of code points are read as the code points. -/
theorem pointsOfUnits_flatMap_pointUnits
    {points : List Nat}
    (arePoints : ∀ point ∈ points, point < 0x110000)
    (hasNoPairs : HasNoPairs points) :
    pointsOfUnits (points.flatMap pointUnits) = points := by
  induction points with
  | nil =>
      rfl
  | cons point rest inductionHypothesis =>
      obtain ⟨isPoint, restArePoints⟩ := List.forall_mem_cons.mp arePoints
      have restIsRead := inductionHypothesis restArePoints hasNoPairs.tail
      rw [List.flatMap_cons]
      cases isHigh : isHighSurrogate point with
      | false =>
          rw [pointsOfUnits_append isPoint isHigh, restIsRead]
      | true =>
          have isSmall : point < 0x10000 := by
            have := isHighSurrogate_iff.mp isHigh
            omega
          rw [pointUnits, if_pos isSmall, List.singleton_append]
          cases rest with
          | nil =>
              rfl
          | cons next later =>
              have notLow : isLowSurrogate next = false :=
                (List.isChain_cons_cons.mp hasNoPairs).1 isHigh
              obtain ⟨unit, others, areUnits, unitNotLow⟩ :=
                exists_first_unit (restArePoints next List.mem_cons_self) notLow
              rw [List.flatMap_cons, areUnits, List.cons_append] at restIsRead ⊢
              rw [pointsOfUnits, unitNotLow, Bool.and_false, if_neg Bool.false_ne_true,
                restIsRead]

/-- Among characters there are no pairs of surrogates. -/
theorem hasNoPairs_map_toNat
    (characters : List Char) :
    HasNoPairs (characters.map Char.toNat) := by
  refine List.Pairwise.isChain ?_
  refine List.pairwise_of_forall_mem_list fun first isFirst _ _ isHigh => ?_
  obtain ⟨character, -, rfl⟩ := List.mem_map.mp isFirst
  have notHigh := (Bool.or_eq_false_iff.mp (isSurrogate_toNat character)).1
  exact absurd isHigh (Bool.eq_false_iff.mp notHigh)

/-! ## Code points -/

/-- A code point, which may be a surrogate. -/
abbrev Point := Fin 0x110000

/-- The units of code points. -/
def unitsOf (points : List Point) : List Nat :=
  (points.map Fin.val).flatMap pointUnits

/-- The code points of a text. -/
def pointsOf (text : String) : List Point :=
  text.toList.map fun character => ⟨character.toNat, toNat_lt character⟩

theorem map_val_lt
    (points : List Point) :
    ∀ point ∈ points.map Fin.val, point < 0x110000 := by
  intro point member
  obtain ⟨inner, -, rfl⟩ := List.mem_map.mp member
  exact inner.isLt

theorem map_val_pointsOf
    (text : String) :
    (pointsOf text).map Fin.val = text.toList.map Char.toNat := by
  rw [pointsOf, List.map_map]
  rfl

/-- Code points without surrogates that form a pair are told by their units. -/
theorem eq_of_unitsOf_eq
    {points others : List Point}
    (hasNoPairs : HasNoPairs (points.map Fin.val))
    (othersHaveNoPairs : HasNoPairs (others.map Fin.val))
    (same : unitsOf points = unitsOf others) :
    points = others := by
  apply List.map_injective_iff.mpr fun _ _ => Fin.ext
  rw [← pointsOfUnits_flatMap_pointUnits (map_val_lt points) hasNoPairs,
    ← pointsOfUnits_flatMap_pointUnits (map_val_lt others) othersHaveNoPairs]
  exact congrArg pointsOfUnits same

end Tabular.Text
