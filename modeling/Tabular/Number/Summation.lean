import Tabular.Number.Amount

namespace Tabular

/-!
# Sums of binary64 numbers

Rounding makes the order of additions part of the result, so each way of summing has a function of
its own: the compensated sum, which goes from the least number to the greatest and carries the
rounding error of each step into the next, and the pairwise sum, which adds blocks of up to 128
numbers in eight interleaved lanes and joins the blocks by halves. The aggregates of a pivot rest on
the compensated sum, the summary statistics on the pairwise sum.
-/

namespace Summation

/-- A sum so far and the rounding error to be taken off the next number. -/
structure Compensated where
  total : Binary64
  error : Binary64

/-- One step of a compensated sum. An error that is not a number is forgotten. -/
def Compensated.step (state : Compensated) (value : Binary64) : Compensated :=
  let corrected := value.sub state.error
  let total := state.total.add corrected
  let error := (total.sub state.total).sub corrected
  { total, error := if error.isNaN then Binary64.zero false else error }

/-- Numbers in ascending order with one more, after those that are less. -/
def insertAscending (value : Binary64) : List Binary64 → List Binary64
  | [] => [value]
  | first :: rest =>
      if first.lt value then first :: insertAscending value rest else value :: first :: rest

/--
The compensated sum, from the least number to the greatest. The order of the list does not give the
grouped sums that are on record: in either direction, one of the two sums below would be one.
-/
def compensated (values : List Binary64) : Binary64 :=
  ((values.foldr insertAscending []).foldl Compensated.step
    { total := Binary64.zero false, error := Binary64.zero false }).total

example :
    compensated
      [ Binary64.ofNat (Nat.pow 10 100), Binary64.ofNat 1,
        (Binary64.ofNat (Nat.pow 10 100)).neg, Binary64.ofNat 1 ] =
      Binary64.zero false := by
  decide +kernel

example :
    compensated
      [ Binary64.ofNat 1, Binary64.ofNat (Nat.pow 10 16),
        (Binary64.ofNat (Nat.pow 10 16)).neg ] =
      Binary64.zero false := by
  decide +kernel

/-- The numbers at every eighth position, from the given one on. -/
def lane : Nat → List Binary64 → List Binary64
  | _, [] => []
  | 0, value :: rest => value :: lane 7 rest
  | skip + 1, _ :: rest => lane skip rest

/-- The sum of the numbers after the first, added to it one by one. -/
def fromFirst : List Binary64 → Binary64
  | [] => Binary64.zero true
  | first :: rest => rest.foldl Binary64.add first

/-- The sum of a block of at most 128 numbers in eight lanes, the numbers left over added last. -/
def block (values : List Binary64) : Binary64 :=
  if values.length < 8 then values.foldl Binary64.add (Binary64.zero true)
  else
    let even := values.length - values.length % 8
    let front := values.take even
    let sumLane (index : Nat) := fromFirst (lane index front)
    let joined :=
      (((sumLane 0).add (sumLane 1)).add ((sumLane 2).add (sumLane 3))).add
        (((sumLane 4).add (sumLane 5)).add ((sumLane 6).add (sumLane 7)))
    (values.drop even).foldl Binary64.add joined

/-- The pairwise sum by halves, which are cut at a multiple of eight; `depth` bounds the halving. -/
def halves : Nat → List Binary64 → Binary64
  | 0, values => block values
  | depth + 1, values =>
      if values.length ≤ 128 then block values
      else
        let half := values.length / 2
        let cut := half - half % 8
        (halves depth (values.take cut)).add (halves depth (values.drop cut))

/-- The pairwise sum. -/
def pairwise (values : List Binary64) : Binary64 :=
  (Binary64.zero false).add (halves values.length values)

/-- The mean by the pairwise sum. -/
def mean (values : List Binary64) : Binary64 :=
  (pairwise values).div (Binary64.ofNat values.length)

/-- The population standard deviation: the root of the mean squared distance from the mean. -/
def standardDeviation (values : List Binary64) : Binary64 :=
  let center := mean values
  (mean (values.map fun value => (value.sub center).mul (value.sub center))).sqrt

/-- Numbers in ascending order; the sort is stable. -/
def ascending (values : List Binary64) : List Binary64 :=
  values.mergeSort fun left right => !Binary64.lt right left

/-- The middle number, or the mean of the two middle numbers. -/
def median (values : List Binary64) : Binary64 :=
  let ordered := ascending values
  let half := ordered.length / 2
  if ordered.length % 2 = 0 then mean ((ordered.drop (half - 1)).take 2)
  else mean ((ordered.drop half).take 1)

/-- The least number, the first one where several are equal. -/
def least : List Binary64 → Binary64
  | [] => .nan
  | first :: rest => rest.foldl (fun best value => if value.lt best then value else best) first

/-- The greatest number, the first one where several are equal. -/
def greatest : List Binary64 → Binary64
  | [] => .nan
  | first :: rest => rest.foldl (fun best value => if best.lt value then value else best) first

/-- How many different values there are. -/
def distinctCount : List Binary64 → Nat
  | [] => 0
  | value :: rest => distinctCount rest + (if rest.any (Binary64.eqv value) then 0 else 1)

end Summation

end Tabular
