import Mathlib.Algebra.BigOperators.Fin
import Mathlib.Data.Int.ModEq
import Mathlib.Data.List.Basic
import Mathlib.Tactic.Ring
import Tabular.Change.Anonymization
import Tabular.Proofs.Text.Units

namespace Tabular.Token

/-!
# What tokens are made of

The sixteen-bit units of a text are the digits of one large number in base thirty-one. The rolling
sum cuts this number to 32 bits after each unit, which is the same as cutting it once at the end. So
a token is the size of the signed residue of that number, and the residue of two texts in a row
depends on the residues of both and the length of the second alone.

A residue of 32 bits has at most eight hexadecimal digits in its size, also the least one.
-/

open Finset
open Text (units)

/-! ## Units and their bytes -/

/-- The bytes of units, the low one of each unit first. -/
def bytesOf (units : List Nat) : List Nat :=
  units.flatMap fun unit => [unit % 256, unit / 256]

theorem lt_of_mem_bytesOf
    {text : String}
    {byte : Nat}
    (isByte : byte ∈ bytesOf (units text)) :
    byte < 256 := by
  obtain ⟨unit, isUnit, isByte⟩ := List.mem_flatMap.mp isByte
  have fits := Text.lt_of_mem_units isUnit
  rcases List.mem_pair.mp isByte with rfl | rfl <;> omega

/-- The rolling sum over bytes, two of which are put together to a unit; each sum is masked. -/
def rollingHashOfBytes (hash : Nat) : List Nat → Nat
  | low :: high :: rest =>
      rollingHashOfBytes ((hash * 31 + (low ||| high <<< 8)) &&& 0xffffffff) rest
  | _ => hash

/-- Two bytes are put together to the unit that they come from. -/
theorem low_or_high
    (unit : Nat) :
    unit % 256 ||| (unit / 256) <<< 8 = unit := by
  have small : unit % 256 < 2 ^ 8 := Nat.mod_lt _ (by decide)
  rw [Nat.or_comm, ← Nat.shiftLeft_add_eq_or_of_lt small, Nat.shiftLeft_eq]
  omega

/-- Going through the bytes of units is going through the units. -/
theorem rollingHashOfBytes_bytesOf
    (hash : Nat)
    (units : List Nat) :
    rollingHashOfBytes hash (bytesOf units) =
      units.foldl (fun hash unit => (hash * 31 + unit) % Nat.pow 2 32) hash := by
  induction units generalizing hash with
  | nil =>
      rfl
  | cons unit rest inductionHypothesis =>
      have masked : (hash * 31 + unit) &&& 0xffffffff = (hash * 31 + unit) % Nat.pow 2 32 :=
        Nat.and_two_pow_sub_one_eq_mod _ 32
      rw [bytesOf, List.flatMap_cons, List.cons_append, List.cons_append, List.nil_append,
        rollingHashOfBytes, low_or_high, masked, ← bytesOf, inductionHypothesis, List.foldl_cons]

/-! ## The number with the units for its digits -/

/-- The number with the units for its digits in base thirty-one, the first one of most weight. -/
def number (units : List Nat) : Nat :=
  ∑ place : Fin units.length, units[place] * 31 ^ (units.length - 1 - place)

theorem number_cons
    (unit : Nat)
    (rest : List Nat) :
    number (unit :: rest) = unit * 31 ^ rest.length + number rest := by
  rw [number, number]
  simp only [List.length_cons]
  rw [Fin.sum_univ_succ]
  congr 1
  refine sum_congr rfl fun place _ => ?_
  have weight : rest.length + 1 - 1 - (place.succ : Nat) = rest.length - 1 - place := by
    simp only [Fin.val_succ]
    omega
  rw [weight]
  rfl

/-- What follows moves the digits in front of it up by its length. -/
theorem number_append
    (front back : List Nat) :
    number (front ++ back) = number front * 31 ^ back.length + number back := by
  induction front with
  | nil =>
      simp [number]
  | cons unit rest inductionHypothesis =>
      rw [List.cons_append, number_cons, inductionHypothesis, number_cons, List.length_append]
      ring

/-- One more unit multiplies the sum by thirty-one and is added. -/
theorem rollingHash_concat
    (front : List Nat)
    (unit : Nat) :
    rollingHash (front ++ [unit]) = (rollingHash front * 31 + unit) % 2 ^ 32 := by
  rw [rollingHash, List.foldl_append]
  rfl

/-- Cutting the sum after each unit is the same as cutting the number once. -/
theorem rollingHash_eq
    (units : List Nat) :
    rollingHash units = number units % 2 ^ 32 := by
  induction units using List.reverseRecOn with
  | nil =>
      rfl
  | append_singleton front unit inductionHypothesis =>
      rw [rollingHash_concat, inductionHypothesis, number_append]
      simp [number, Nat.add_mod, Nat.mul_mod]

/-! ## Residues -/

/-- The signed residue that the token of a text shows the size of. -/
def residue (text : String) : Int :=
  signed (rollingHash (units text))

/-- A word of 32 bits is read as the balanced residue. -/
theorem signed_mod
    (value : Nat) :
    signed (value % 2 ^ 32) = (value : Int).bmod (2 ^ 32) := by
  rw [signed, Int.bmod_def]
  norm_num
  split <;> split <;> omega

theorem residue_eq
    (text : String) :
    residue text = (number (units text) : Int).bmod (2 ^ 32) := by
  rw [residue, rollingHash_eq, signed_mod]

/-! ## Hexadecimal digits -/

/-- A number in lower-case hexadecimal digits, filled up with zeros to eight of them. -/
def padded (value : Nat) : List Char :=
  (Nat.toDigits 16 value).leftpad 8 '0'

/-- The last hexadecimal digits of a number, as many as asked for. -/
def lastDigits (count value : Nat) : List Char :=
  (List.range count).reverse.map fun place => Nat.digitChar (value / 16 ^ place % 16)

theorem lastDigits_succ
    (count value : Nat) :
    lastDigits (count + 1) value =
      lastDigits count (value / 16) ++ [Nat.digitChar (value % 16)] := by
  rw [lastDigits, lastDigits, List.range_succ_eq_map, List.reverse_cons, List.map_append,
    ← List.map_reverse, List.map_map]
  simp [Function.comp_def, Nat.div_div_eq_div_mul, Nat.pow_succ']

theorem lastDigits_zero
    (count : Nat) :
    lastDigits count 0 = List.replicate count '0' := by
  simp [lastDigits, List.eq_replicate_iff]

/-- A number without more digits is its last digits, with zeros in front. -/
theorem leftpad_toDigits
    {count value : Nat}
    (positive : 0 < count)
    (small : value < 16 ^ count) :
    (Nat.toDigits 16 value).leftpad count '0' = lastDigits count value := by
  induction count generalizing value with
  | zero =>
      exact absurd positive (Nat.lt_irrefl 0)
  | succ count inductionHypothesis =>
      rw [lastDigits_succ]
      rcases Nat.lt_or_ge value 16 with single | several
      · rw [Nat.toDigits_of_lt_base single, Nat.div_eq_of_lt single, lastDigits_zero,
          Nat.mod_eq_of_lt single]
        rfl
      · have more : 0 < count := by
          rcases Nat.eq_zero_or_pos count with rfl | more
          · omega
          · exact more
        have smaller : value / 16 < 16 ^ count := by
          rw [Nat.div_lt_iff_lt_mul (by decide), ← Nat.pow_succ]
          exact small
        rw [Nat.toDigits_of_base_le (by decide) several, ← inductionHypothesis more smaller,
          List.leftpad, List.leftpad, List.length_append, List.length_singleton,
          Nat.add_sub_add_right, List.append_assoc]

theorem hexDigit_eq
    {value : Nat}
    (small : value < 16) :
    hexDigit value = (Nat.digitChar value).toUpper := by
  have all : ∀ value < 16, hexDigit value = (Nat.digitChar value).toUpper := by
    decide
  exact all value small

/-- The eight digits of a token are the last ones of the number. -/
theorem eightDigits_eq
    (value : Nat) :
    eightDigits value = (lastDigits 8 value).map Char.toUpper := by
  have places : (List.range 8).reverse = [7, 6, 5, 4, 3, 2, 1, 0] := rfl
  rw [eightDigits, lastDigits, places, List.map_map]
  refine List.map_congr_left fun place _ => ?_
  exact hexDigit_eq (Nat.mod_lt _ (by decide))

/-- A residue goes up to half of the words on either side of zero, the least one included. -/
theorem residue_bounds
    (text : String) :
    -2 ^ 31 ≤ residue text ∧ residue text < 2 ^ 31 := by
  rw [residue_eq]
  exact ⟨Int.le_bmod (by decide), Int.bmod_lt (by decide)⟩

/-! ## Tokens -/

/--
The token of a text is the size of the signed residue that its units leave, also when they are put
together from bytes, in upper-case hexadecimal digits. Of these there are eight, none of which is
cut off.
-/
structure ShowsResidue (text : String) : Prop where
  ofUnits : residue text = (number (units text) : Int).bmod (2 ^ 32)
  areBytes : ∀ byte ∈ bytesOf (units text), byte < 256
  ofBytes : residue text = signed (rollingHashOfBytes 0 (bytesOf (units text)))
  inRange : -2 ^ 31 ≤ residue text ∧ residue text < 2 ^ 31
  isWhole : (padded (residue text).natAbs).length = 8
  isWritten :
    ofText text = String.ofList (((padded (residue text).natAbs).take 8).map Char.toUpper)

theorem showsResidue
    (text : String) :
    ShowsResidue text := by
  have inRange := residue_bounds text
  have small : (residue text).natAbs < 16 ^ 8 := by omega
  have digits : padded (residue text).natAbs = lastDigits 8 (residue text).natAbs :=
    leftpad_toDigits (by decide) small
  have isWhole : (padded (residue text).natAbs).length = 8 := by
    rw [digits, lastDigits, List.length_map, List.length_reverse, List.length_range]
  refine ⟨residue_eq text, fun _ => lt_of_mem_bytesOf, ?_, inRange, isWhole, ?_⟩
  · rw [rollingHashOfBytes_bytesOf]
    rfl
  · rw [List.take_of_length_le isWhole.le, digits, ← eightDigits_eq]
    rfl

/-- The residue of two texts in a row is that of the first one, moved up by the second one. -/
theorem residue_append_modEq
    (first second : String) :
    residue (first ++ second) ≡
      residue first * 31 ^ (units second).length + residue second [ZMOD 2 ^ 32] := by
  have reduced (text : String) : residue text ≡ (number (units text) : Int) [ZMOD 2 ^ 32] := by
    rw [residue_eq]
    exact Int.bmod_emod
  have appended : (number (units (first ++ second)) : Int) =
      number (units first) * 31 ^ (units second).length + number (units second) := by
    rw [Text.units_append, number_append]
    push_cast
    rfl
  calc
    residue (first ++ second) ≡ number (units (first ++ second)) [ZMOD 2 ^ 32] := reduced _
    _ = number (units first) * 31 ^ (units second).length + number (units second) := appended
    _ ≡ residue first * 31 ^ (units second).length + residue second [ZMOD 2 ^ 32] :=
      (((reduced first).mul_right _).add (reduced second)).symm

/--
The token of every text shows the size of the residue of the number that has the units of the text
for its digits. The residue of two texts in a row is told by those of the two and by how many units
the second one has. There are texts with the least residue, whose size is no residue itself.
-/
theorem tokens_show_residues :
    (∀ text, ShowsResidue text) ∧
      (∀ first second,
        residue (first ++ second) ≡
          residue first * 31 ^ (units second).length + residue second [ZMOD 2 ^ 32]) ∧
      ∃ text, residue text = -2 ^ 31 ∧ ofText text = "80000000" :=
  ⟨showsResidue, residue_append_modEq, "polygenelubricants", by decide +kernel, by decide +kernel⟩

/-- The second unit of a character above the basic plane counts like any other unit. -/
example : units "a𝄞" = [0x61, 0xd834, 0xdd1e] ∧ ofText "a𝄞" = "001C778B" := by
  decide +kernel

end Tabular.Token
