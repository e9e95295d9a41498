import Tabular.Analysis.Statistics
import Tabular.Proofs.Cell.Value

namespace Tabular

/-!
# The most frequent number

One pass over numbers counts them and keeps the best one so far, which a number replaces only when
its count is higher. The counts grow during the pass, so of several numbers that end with the
highest count the one is kept that is the first to reach it, wherever it is seen first.
-/

namespace Binary64

variable {left middle right : Binary64}

theorem eqv_comm
    (left right : Binary64) :
    left.eqv right = right.eqv left := by
  rw [Bool.eq_iff_iff, eqv_iff, eqv_iff, Meaning.agree_comm]

theorem eqv_trans
    (same : left.eqv middle = true)
    (sameNext : middle.eqv right = true) :
    left.eqv right = true :=
  (eqv_iff left right).mpr
    (((eqv_iff left middle).mp same).trans ((eqv_iff middle right).mp sameNext))

/-- Equal numbers are equal to the same numbers. -/
theorem eqv_congr_left
    (same : left.eqv middle = true)
    (right : Binary64) :
    left.eqv right = middle.eqv right := by
  rw [Bool.eq_iff_iff]
  refine ⟨fun sameToo => eqv_trans ?_ sameToo, eqv_trans same⟩
  rwa [eqv_comm]

end Binary64

namespace Statistics

open List

/-! ## Occurrences -/

/-- How often a number occurs. -/
def occurrences (number : Binary64) (values : List Binary64) : Nat :=
  values.countP fun value => value.eqv number

/-- At the place a number occurs for the given time. -/
structure OccursAt (values : List Binary64) (number : Binary64) (time place : Nat) : Prop where
  isHere : ∃ found, values[place]? = some found ∧ found.eqv number = true
  counted : occurrences number (values.take (place + 1)) = time

variable {values : List Binary64} {value number other best : Binary64} {count place : Nat}

theorem occurrences_concat
    (number : Binary64)
    (values : List Binary64)
    (value : Binary64) :
    occurrences number (values ++ [value]) =
      occurrences number values + if value.eqv number then 1 else 0 := by
  rw [occurrences, countP_append, countP_singleton, occurrences]

theorem occurrences_congr
    (same : number.eqv other = true)
    (values : List Binary64) :
    occurrences number values = occurrences other values := by
  refine countP_congr fun value _ => ?_
  rw [Binary64.eqv_comm value, Binary64.eqv_comm value, Binary64.eqv_congr_left same]

/-- A number that occurs is equal to itself. -/
theorem eqv_self_of_occurrences
    (occurs : 0 < occurrences number values) :
    number.eqv number = true := by
  obtain ⟨value, -, same⟩ := countP_pos_iff.mp occurs
  have sameToo := same
  rw [Binary64.eqv_comm] at sameToo
  exact Binary64.eqv_trans sameToo same

theorem occurrences_take_le
    (number : Binary64)
    (values : List Binary64)
    (count : Nat) :
    occurrences number (values.take count) ≤ occurrences number values :=
  (take_sublist count values).countP_le

theorem occurrences_take_mono
    (number : Binary64)
    (values : List Binary64)
    {fewer more : Nat}
    (ordered : fewer ≤ more) :
    occurrences number (values.take fewer) ≤ occurrences number (values.take more) :=
  (take_sublist_take_left ordered).countP_le

theorem OccursAt.congr
    {time : Nat}
    (occurs : OccursAt values number time place)
    (same : number.eqv other = true) :
    OccursAt values other time place := by
  obtain ⟨found, isHere, isNumber⟩ := occurs.isHere
  refine ⟨⟨found, isHere, Binary64.eqv_trans isNumber same⟩, ?_⟩
  rw [← occurrences_congr same]
  exact occurs.counted

/-- A number occurs for the same time at one place only. -/
theorem OccursAt.place_le
    {time placeToo : Nat}
    (occurs : OccursAt values number time place)
    (occursToo : OccursAt values number time placeToo) :
    placeToo ≤ place := by
  by_contra later
  obtain ⟨found, isHere, same⟩ := occursToo.isHere
  have oneMore : occurrences number (values.take (placeToo + 1)) =
      occurrences number (values.take placeToo) + 1 := by
    rw [take_add_one, isHere, Option.toList_some, occurrences_concat, same, if_pos rfl]
  have earlier := occurrences_take_mono number values (by omega : place + 1 ≤ placeToo)
  have counted := occurs.counted
  have countedToo := occursToo.counted
  omega

/-! ## The first to reach a count -/

/-- At the place a number occurs so many times for the first time of all. -/
structure ReachesFirst (values : List Binary64) (best : Binary64) (count place : Nat) : Prop where
  isHere : values[place]? = some best
  reached : occurrences best (values.take (place + 1)) = count
  earliest : ∀ number, occurrences number (values.take place) < count

namespace ReachesFirst

theorem place_lt
    (reaches : ReachesFirst values best count place) :
    place < values.length :=
  (List.getElem?_eq_some_iff.mp reaches.isHere).1

/-- What comes later makes no difference. -/
theorem append
    (reaches : ReachesFirst values best count place)
    (more : List Binary64) :
    ReachesFirst (values ++ more) best count place where
  isHere := by
    rw [getElem?_append_left reaches.place_lt]
    exact reaches.isHere
  reached := by
    rw [take_append_of_le_length reaches.place_lt]
    exact reaches.reached
  earliest number := by
    rw [take_append_of_le_length reaches.place_lt.le]
    exact reaches.earliest number

/-- Every other number occurs as many times at a later place, if it does at all. -/
theorem lt_of_occursAt
    (reaches : ReachesFirst values best count place)
    (different : other.eqv best = false)
    {placeToo : Nat}
    (occurs : OccursAt values other count placeToo) :
    place < placeToo := by
  by_contra notLater
  rcases Nat.lt_or_eq_of_le (not_lt.mp notLater) with earlier | rfl
  · have fewer := occurrences_take_mono other values earlier
    exact absurd (reaches.earliest other) (not_lt.mpr (occurs.counted.symm.trans_le fewer))
  · obtain ⟨found, isHere, same⟩ := occurs.isHere
    rw [reaches.isHere, Option.some.injEq] at isHere
    rw [← isHere, Binary64.eqv_comm, different] at same
    exact Bool.false_ne_true same

end ReachesFirst

/-! ## One more number -/

namespace Tally

theorem countOf_raise
    (counts : List (Binary64 × Nat))
    (value number : Binary64) :
    (((raise value counts).find? fun entry => entry.1.eqv number).map Prod.snd).getD 0 =
      ((counts.find? fun entry => entry.1.eqv number).map Prod.snd).getD 0 +
        if value.eqv number then 1 else 0 := by
  induction counts with
  | nil =>
      rw [raise]
      cases same : value.eqv number <;> simp [same]
  | cons entry rest inductionHypothesis =>
      obtain ⟨seen, count⟩ := entry
      rw [raise]
      cases isSeen : seen.eqv value with
      | true =>
          rw [if_pos rfl, ← Binary64.eqv_congr_left isSeen number]
          cases same : seen.eqv number <;> simp [same]
      | false =>
          rw [if_neg Bool.false_ne_true]
          cases same : seen.eqv number with
          | true =>
              rw [Binary64.eqv_comm] at isSeen
              have different : value.eqv number = false := by
                rw [← isSeen, Binary64.eqv_comm value, Binary64.eqv_comm value,
                  Binary64.eqv_congr_left same]
              simp [same, different]
          | false =>
              simpa [same] using inductionHypothesis

/-- What the pass has found in the numbers so far. -/
structure Tallies (tally : Tally) (values : List Binary64) : Prop where
  counts (number : Binary64) : tally.countOf number = occurrences number values
  most (number : Binary64) : occurrences number values ≤ tally.bestCount
  first : 1 < tally.bestCount →
    ∃ best place, tally.best = some best ∧ ReachesFirst values best tally.bestCount place

namespace Tallies

variable {tally : Tally}

theorem countOf_step
    (tallies : tally.Tallies values)
    (value number : Binary64) :
    (tally.step value).countOf number = occurrences number (values ++ [value]) := by
  have counted := countOf_raise tally.counts value number
  rw [← countOf, tallies.counts] at counted
  rw [occurrences_concat, ← counted, step]
  split <;> rfl

/-- A number that has not reached more than the best count is only counted. -/
theorem passOver
    (tallies : tally.Tallies values)
    (notHigher : ¬tally.bestCount < tally.countOf value + 1) :
    (tally.step value).Tallies (values ++ [value]) := by
  have isStep : tally.step value = { tally with counts := raise value tally.counts } := by
    rw [step]
    exact if_neg notHigher
  refine ⟨tallies.countOf_step value, fun number => ?_, fun repeats => ?_⟩
  · rw [isStep, occurrences_concat]
    split
    · next same =>
        rw [tallies.counts, occurrences_congr same] at notHigher
        exact not_lt.mp notHigher
    · exact tallies.most number
  · rw [isStep] at repeats ⊢
    obtain ⟨best, place, isBest, reaches⟩ := tallies.first repeats
    exact ⟨best, place, isBest, reaches.append [value]⟩

/-- A number that reaches more than the best count is the first to do so. -/
theorem replace
    (tallies : tally.Tallies values)
    (higher : tally.bestCount < tally.countOf value + 1) :
    (tally.step value).Tallies (values ++ [value]) := by
  have isStep : tally.step value =
      { counts := raise value tally.counts
        best := some value
        bestCount := tally.countOf value + 1 } := by
    rw [step]
    exact if_pos higher
  refine ⟨tallies.countOf_step value, fun number => ?_, fun repeats => ?_⟩
  · rw [isStep, occurrences_concat]
    split
    · next same =>
        rw [← occurrences_congr same, tallies.counts]
    · exact (tallies.most number).trans higher.le
  · rw [isStep] at repeats ⊢
    refine ⟨value, values.length, rfl, by simp, ?_, fun number => ?_⟩
    · rw [take_of_length_le (by simp), occurrences_concat, tallies.counts,
        if_pos (eqv_self_of_occurrences (tallies.counts value ▸ Nat.lt_of_succ_lt_succ repeats))]
    · rw [take_left]
      exact (tallies.most number).trans_lt higher

theorem concat
    (tallies : tally.Tallies values)
    (value : Binary64) :
    (tally.step value).Tallies (values ++ [value]) := by
  by_cases higher : tally.bestCount < tally.countOf value + 1
  · exact tallies.replace higher
  · exact tallies.passOver higher

end Tallies

/-- The pass over all numbers counts them and finds the first one to reach the highest count. -/
theorem tallies_foldl
    (values : List Binary64) :
    (values.foldl step {}).Tallies values := by
  induction values using reverseRecOn with
  | nil =>
      exact ⟨fun _ => rfl, fun _ => Nat.le_refl 0, nofun⟩
  | append_singleton values value inductionHypothesis =>
      rw [foldl_append]
      exact inductionHypothesis.concat value

end Tally

/-! ## The mode -/

/--
The number repeats, no other one occurs more often, and every one that occurs as often does so for
the last time at a later place.
-/
structure IsMode (values : List Binary64) (best : Binary64) : Prop where
  repeats : 1 < occurrences best values
  most (number : Binary64) : occurrences number values ≤ occurrences best values
  first : ∃ place,
    values[place]? = some best ∧ OccursAt values best (occurrences best values) place ∧
      ∀ other placeToo, other.eqv best = false →
        OccursAt values other (occurrences best values) placeToo → place < placeToo

/-- What is found is the number that occurs most often, and of several the first to do so. -/
theorem isMode_of_mode
    (found : mode values = some best) :
    IsMode values best := by
  have tallies := Tally.tallies_foldl values
  rw [mode] at found
  split at found
  · next repeats =>
      obtain ⟨isBest, place, isFirst, reaches⟩ := tallies.first repeats
      obtain rfl : isBest = best := Option.some.inj (isFirst.symm.trans found)
      have isHighest : (values.foldl Tally.step {}).bestCount = occurrences isBest values := by
        refine Nat.le_antisymm ?_ (tallies.most isBest)
        have within := occurrences_take_le isBest values (place + 1)
        rwa [reaches.reached] at within
      rw [isHighest] at repeats reaches
      have isItself : isBest.eqv isBest = true :=
        eqv_self_of_occurrences (Nat.zero_lt_of_lt repeats)
      exact
        { repeats
          most := fun number => isHighest ▸ tallies.most number
          first :=
            ⟨place, reaches.isHere, ⟨⟨isBest, reaches.isHere, isItself⟩, reaches.reached⟩,
              fun other placeToo different occurs => reaches.lt_of_occursAt different occurs⟩ }
  · cases found

/-- There is only one such number. -/
theorem IsMode.unique
    (isMode : IsMode values best)
    (isModeToo : IsMode values other) :
    best = other := by
  have asMany : occurrences other values = occurrences best values :=
    Nat.le_antisymm (isMode.most other) (isModeToo.most best)
  obtain ⟨place, isHere, occurs, isFirst⟩ := isMode.first
  obtain ⟨placeToo, isHereToo, occursToo, isFirstToo⟩ := isModeToo.first
  rw [asMany] at occursToo isFirstToo
  cases same : other.eqv best with
  | false =>
      have before := isFirst other placeToo same occursToo
      rw [Binary64.eqv_comm] at same
      exact absurd (isFirstToo best place same occurs) (not_lt.mpr before.le)
  | true =>
      have occursAlike := occursToo.congr same
      have samePlace : place = placeToo :=
        Nat.le_antisymm (occursAlike.place_le occurs) (occurs.place_le occursAlike)
      rw [samePlace, isHereToo] at isHere
      exact (Option.some.inj isHere).symm

theorem mode_eq_none_iff
    (values : List Binary64) :
    mode values = none ↔ ∀ number, occurrences number values ≤ 1 := by
  have tallies := Tally.tallies_foldl values
  rw [mode]
  split
  · next repeats =>
      obtain ⟨best, place, isBest, reaches⟩ := tallies.first repeats
      rw [isBest]
      refine iff_of_false nofun fun once => ?_
      have within := occurrences_take_le best values (place + 1)
      rw [reaches.reached] at within
      exact absurd (repeats.trans_le within) (not_lt.mpr (once best))
  · next notRepeats =>
      exact iff_of_true rfl fun number => (tallies.most number).trans (not_lt.mp notRepeats)

/--
Numbers have no mode exactly when none of them occurs twice. Otherwise it is a number that occurs
most often, and of all such numbers the one that is the first to have occurred so many times.
-/
theorem mode_first_to_reach_most
    (values : List Binary64) :
    (mode values = none ↔ ∀ number, occurrences number values ≤ 1) ∧
      ∀ best, mode values = some best ↔ IsMode values best := by
  refine ⟨mode_eq_none_iff values, fun best => ⟨isMode_of_mode, fun isMode => ?_⟩⟩
  cases found : mode values with
  | none =>
      have once := (mode_eq_none_iff values).mp found best
      exact absurd isMode.repeats (not_lt.mpr once)
  | some other =>
      rw [(isMode_of_mode found).unique isMode]

/-- Two is seen first, but one is the first to be seen twice. -/
example : mode ([2, 1, 1, 2].map Binary64.ofNat) = some (Binary64.ofNat 1) := by
  decide +kernel

end Statistics

end Tabular
