import Mathlib.Data.List.Basic
import Tabular.Json.Reader
import Tabular.Json.Writer
import Tabular.Proofs.Text.Units

namespace Tabular.Json

/-!
# Written texts read back

A text in quotes is read back as itself, whatever follows the closing quote. Every character is
written as itself, as an escape of one letter, as the escape of a sixteen-bit unit, or as a pair of
such escapes, and the reader takes each of these for one character.
-/

/-! ## Escapes -/

theorem hexDigitValue?_hexDigit
    {value : Nat}
    (small : value < 16) :
    Text.hexDigitValue? (hexDigit value) = some value := by
  have all : ∀ value < 16, Text.hexDigitValue? (hexDigit value) = some value := by
    decide
  exact all value small

/-- The digits of an escaped unit. -/
def unitDigits (unit : Nat) : List Char :=
  [hexDigit (unit / 4096 % 16), hexDigit (unit / 256 % 16), hexDigit (unit / 16 % 16),
    hexDigit (unit % 16)]

/-- An escaped unit is a mark before its digits. -/
theorem escapedUnit_eq
    (unit : Nat) :
    escapedUnit unit = '\\' :: 'u' :: unitDigits unit :=
  rfl

theorem hexUnit?_unitDigits
    {unit : Nat}
    (small : unit < 0x10000)
    (rest : List Char) :
    hexUnit? (unitDigits unit ++ rest) = some unit := by
  simp only [unitDigits, List.cons_append, hexUnit?,
    hexDigitValue?_hexDigit (Nat.mod_lt _ (by decide)), Option.bind_eq_bind,
    Option.bind_some, Option.some.injEq]
  omega

/-- The second half of a pair is found behind the first. -/
theorem lowSurrogate?_escapedUnit
    {unit : Nat}
    (low : 0xdc00 ≤ unit)
    (high : unit ≤ 0xdfff)
    (rest : List Char) :
    lowSurrogate? (escapedUnit unit ++ rest) = some unit := by
  rw [escapedUnit_eq, List.cons_append, List.cons_append, lowSurrogate?,
    hexUnit?_unitDigits (by omega)]
  exact Option.filter_eq_some_iff.mpr ⟨rfl, Text.isLowSurrogate_iff.mpr ⟨low, high⟩⟩

/-- The three ways in which a code point is written. -/
theorem escapedPoint_cases
    (point : Nat) :
    (∃ letter escaped,
        escapedPoint point = ['\\', letter] ∧ letter ≠ 'u' ∧
          simpleEscape? letter = some escaped ∧ escaped.toNat = point) ∨
      (escapedPoint point = [Char.ofNat point] ∧
        point ≠ '"'.toNat ∧ point ≠ '\\'.toNat ∧ 32 ≤ point ∧ point < 127) ∨
      escapedPoint point = (Text.pointUnits point).flatMap escapedUnit := by
  unfold escapedPoint
  split_ifs with quote slash newline carriage tab backspace feed visible
  · exact .inl ⟨'"', '"', rfl, by decide, rfl, quote.symm⟩
  · exact .inl ⟨'\\', '\\', rfl, by decide, rfl, slash.symm⟩
  · exact .inl ⟨'n', '\n', rfl, by decide, rfl, newline.symm⟩
  · exact .inl ⟨'r', '\r', rfl, by decide, rfl, carriage.symm⟩
  · exact .inl ⟨'t', '\t', rfl, by decide, rfl, tab.symm⟩
  · exact .inl ⟨'b', Char.ofNat 8, rfl, by decide, rfl, backspace.symm⟩
  · exact .inl ⟨'f', Char.ofNat 12, rfl, by decide, rfl, feed.symm⟩
  · exact .inr (.inl ⟨rfl, quote, slash, visible⟩)
  · exact .inr (.inr rfl)

/-! ## Reading one character -/

variable {start fuel position : Nat} {collected rest : List Char}

/-- The reader reads from a list of characters on, wherever it stands. -/
def ReadsTextTo
    (start fuel : Nat)
    (collected characters : List Char)
    (fuelAfter : Nat)
    (collectedAfter rest : List Char) :
    Prop :=
  ∀ position, ∃ positionAfter,
    readTextFrom start fuel collected ⟨position, characters⟩ =
      readTextFrom start fuelAfter collectedAfter ⟨positionAfter, rest⟩

theorem readsTextTo_plain
    {character : Char}
    (notQuote : character ≠ '"')
    (notSlash : character ≠ '\\')
    (visible : 32 ≤ character.toNat) :
    ReadsTextTo start (fuel + 1) collected (character :: rest) fuel
      (character :: collected) rest := by
  refine fun position => ⟨position + 1, ?_⟩
  have toSlash {tail : List Char}
      (same : character :: rest = '\\' :: tail) :
      False :=
    notSlash (List.cons.inj same).1
  rw [readTextFrom]
  dsimp only
  split
  · next same => cases same
  · next same => exact absurd (List.cons.inj same).1 notQuote
  · next same => exact (toSlash same).elim
  · next same => exact (toSlash same).elim
  · next same => exact (toSlash same).elim
  · next same =>
      obtain ⟨rfl, rfl⟩ := List.cons.inj same
      rw [if_neg (by omega)]
      rfl

theorem readsTextTo_escape
    {letter character : Char}
    (notUnit : letter ≠ 'u')
    (known : simpleEscape? letter = some character) :
    ReadsTextTo start (fuel + 1) collected ('\\' :: letter :: rest) fuel
      (character :: collected) rest := by
  refine fun position => ⟨position + 2, ?_⟩
  rw [readTextFrom]
  · simp [known, Cursor.advance]

theorem readsTextTo_unit
    {character : Char}
    (small : character.toNat < 0x10000)
    (more : rest ≠ []) :
    ReadsTextTo start (fuel + 1) collected
      (escapedUnit character.toNat ++ rest) fuel (character :: collected)
      rest := by
  refine fun position => ⟨position + 6, ?_⟩
  have notHalf := Text.isSurrogate_toNat character
  have notFirst : Text.isHighSurrogate character.toNat = false :=
    (Bool.or_eq_false_iff.mp notHalf).1
  have itself : unitCharacter character.toNat = character := by
    rw [unitCharacter, notHalf, if_neg Bool.false_ne_true, Char.ofNat_toNat]
  have long :
      ¬ (unitDigits character.toNat ++ rest).length < 5 := by
    have := List.length_pos_iff.mpr more
    simp only [List.length_append, unitDigits, List.length_cons,
      List.length_nil]
    omega
  rw [escapedUnit_eq, List.cons_append, List.cons_append, readTextFrom]
  simp only [if_neg long, hexUnit?_unitDigits small, notFirst, itself]
  rfl

/-- A pair of escaped units is read as the character above the basic plane that it stands for. -/
theorem readsTextTo_pair
    {character : Char}
    (large : 0x10000 ≤ character.toNat) :
    ReadsTextTo start (fuel + 1) collected
      ((Text.pointUnits character.toNat).flatMap escapedUnit ++ rest) fuel
      (character :: collected) rest := by
  refine fun position => ⟨position + 12, ?_⟩
  have bounded := Text.toNat_lt character
  set first := 0xd800 + (character.toNat - 0x10000) / 1024 with firstIs
  set second := 0xdc00 + (character.toNat - 0x10000) % 1024 with secondIs
  have units : Text.pointUnits character.toNat = [first, second] :=
    if_neg (by omega)
  have isFirst : Text.isHighSurrogate first :=
    Text.isHighSurrogate_iff.mpr (by omega)
  have point : Char.ofNat (Text.joinedPoint first second) = character := by
    rw [firstIs, secondIs, Text.joinedPoint_halves large, Char.ofNat_toNat]
  have long :
      ¬ (unitDigits first ++ (escapedUnit second ++ rest)).length < 5 := by
    simp [unitDigits, escapedUnit]
  have dropped :
      (unitDigits first ++ (escapedUnit second ++ rest)).drop 4 =
        escapedUnit second ++ rest :=
    rfl
  rw [units, List.flatMap_cons, List.flatMap_cons, List.flatMap_nil,
    List.append_nil, List.append_assoc, escapedUnit_eq first,
    List.cons_append, List.cons_append, readTextFrom]
  simp only [if_neg long, hexUnit?_unitDigits (show first < 0x10000 by omega),
    if_pos isFirst, dropped,
    lowSurrogate?_escapedUnit (show 0xdc00 ≤ second by omega)
      (show second ≤ 0xdfff by omega),
    point]
  rfl

/-- The three ways in which a character is written. -/
theorem escapedChar_cases
    (character : Char) :
    (∃ letter,
        escapedChar character = ['\\', letter] ∧
          letter ≠ 'u' ∧ simpleEscape? letter = some character) ∨
      (escapedChar character = [character] ∧
        character ≠ '"' ∧ character ≠ '\\' ∧ 32 ≤ character.toNat) ∨
      escapedChar character = (Text.pointUnits character.toNat).flatMap escapedUnit := by
  obtain ⟨letter, escaped, written, notUnit, known, samePoint⟩ |
      ⟨written, notQuote, notSlash, visible⟩ | written :=
    escapedPoint_cases character.toNat
  · exact .inl ⟨letter, written, notUnit, known.trans (congrArg some (Char.toNat_inj.mp samePoint))⟩
  · rw [Char.ofNat_toNat] at written
    exact .inr (.inl ⟨written, fun same => notQuote (congrArg Char.toNat same),
      fun same => notSlash (congrArg Char.toNat same), visible.1⟩)
  · exact .inr (.inr written)

theorem readsTextTo_escapedChar
    (character : Char)
    (more : rest ≠ []) :
    ReadsTextTo start (fuel + 1) collected (escapedChar character ++ rest)
      fuel (character :: collected) rest := by
  obtain ⟨letter, written, notUnit, known⟩ |
      ⟨written, notQuote, notSlash, visible⟩ | written :=
    escapedChar_cases character
  · rw [written]
    exact readsTextTo_escape notUnit known
  · rw [written]
    exact readsTextTo_plain notQuote notSlash visible
  · rw [written]
    by_cases small : character.toNat < 0x10000
    · have units : Text.pointUnits character.toNat = [character.toNat] :=
        if_pos small
      rw [units, List.flatMap_cons, List.flatMap_nil, List.append_nil]
      exact readsTextTo_unit small more
    · exact readsTextTo_pair (Nat.le_of_not_lt small)

theorem length_escapedChar_pos
    (character : Char) :
    0 < (escapedChar character).length := by
  obtain ⟨letter, written, _⟩ | ⟨written, _⟩ | written :=
    escapedChar_cases character
  · simp [written]
  · simp [written]
  · rw [written, Text.pointUnits]
    split
    · simp [escapedUnit]
    · simp [escapedUnit]

/-! ## Escapes and units -/

/-- The unit that is written at the front, and what follows it. -/
def readUnit? : List Char → Option (Nat × List Char)
  | '\\' :: 'u' :: digits => (hexUnit? digits).map fun unit => (unit, digits.drop 4)
  | '\\' :: letter :: rest => (simpleEscape? letter).map fun escaped => (escaped.toNat, rest)
  | character :: rest => some (character.toNat, rest)
  | [] => none

/-- A unit is read as what it has been written for. -/
theorem readUnit?_escapedPoint
    {unit : Nat}
    (small : unit < 0x10000)
    (rest : List Char) :
    readUnit? (escapedPoint unit ++ rest) = some (unit, rest) := by
  obtain ⟨letter, escaped, written, notUnit, known, rfl⟩ |
      ⟨written, notQuote, notSlash, visible⟩ | written :=
    escapedPoint_cases unit
  · rw [written, List.cons_append, List.cons_append, List.nil_append, readUnit?]
    · rw [known]
      rfl
    · exact notUnit
  · have isItself : (Char.ofNat unit).toNat = unit :=
      Text.toNat_ofNat (.inl (by omega))
    have notMark : Char.ofNat unit ≠ '\\' := by
      rintro isMark
      rw [isMark] at isItself
      exact notSlash isItself.symm
    rw [written, List.cons_append, List.nil_append, readUnit?, isItself]
    · exact fun _ isMark => absurd isMark notMark
    · exact fun _ _ isMark => absurd isMark notMark
  · rw [written, Text.pointUnits, if_pos small, List.flatMap_singleton, escapedUnit_eq,
      List.cons_append, List.cons_append, readUnit?, hexUnit?_unitDigits small]
    rfl

/-- Code points outside ASCII are written as escapes of their units. -/
theorem escapedPoint_of_le
    {point : Nat}
    (isLarge : 127 ≤ point) :
    escapedPoint point = (Text.pointUnits point).flatMap escapedUnit := by
  simp only [escapedPoint, Char.reduceToNat]
  repeat rw [if_neg (by omega)]

/-- A code point is written as its units are. -/
theorem escapedPoint_eq_flatMap
    {point : Nat}
    (isPoint : point < 0x110000) :
    escapedPoint point = (Text.pointUnits point).flatMap escapedPoint := by
  by_cases small : point < 0x10000
  · rw [Text.pointUnits, if_pos small, List.flatMap_singleton]
  · have unitIsWritten (unit : Nat) (isUnit : unit ∈ Text.pointUnits point) :
        escapedPoint unit = escapedUnit unit := by
      have fits := Text.lt_of_mem_pointUnits isPoint isUnit
      have isLarge : 127 ≤ unit := by
        rw [Text.pointUnits, if_neg small] at isUnit
        rcases List.mem_pair.mp isUnit with isFirst | isSecond <;> omega
      rw [escapedPoint_of_le isLarge, Text.pointUnits, if_pos fits, List.flatMap_singleton]
    rw [escapedPoint_of_le (by omega)]
    exact (List.flatMap_congr unitIsWritten).symm

/-- What is written for a code point is not taken for a closing quote. -/
theorem escapedPoint_append_ne_quote
    (point : Nat)
    (tail rest : List Char) :
    escapedPoint point ++ tail ≠ '"' :: rest := by
  obtain ⟨letter, escaped, written, -⟩ | ⟨written, notQuote, -, visible⟩ | written :=
    escapedPoint_cases point
  · rw [written]
    simp
  · rw [written, List.singleton_append]
    intro same
    have isItself : (Char.ofNat point).toNat = point :=
      Text.toNat_ofNat (.inl (by omega))
    rw [(List.cons.inj same).1] at isItself
    exact notQuote isItself.symm
  · rw [written, Text.pointUnits]
    split <;>
      simp [escapedUnit]

/-- Units up to a closing quote are told by how they are written, and so is what follows. -/
theorem flatMap_escapedPoint_append_inj
    {units others : List Nat}
    (small : ∀ unit ∈ units, unit < 0x10000)
    (othersAreSmall : ∀ unit ∈ others, unit < 0x10000)
    {rest otherRest : List Char}
    (same :
      units.flatMap escapedPoint ++ '"' :: rest =
        others.flatMap escapedPoint ++ '"' :: otherRest) :
    units = others ∧ rest = otherRest := by
  induction units generalizing others with
  | nil =>
      cases others with
      | nil =>
          exact ⟨rfl, (List.cons.inj same).2⟩
      | cons other others =>
          rw [List.flatMap_cons, List.append_assoc] at same
          exact absurd same.symm (escapedPoint_append_ne_quote other _ rest)
  | cons unit units inductionHypothesis =>
      obtain ⟨unitIsSmall, restIsSmall⟩ := List.forall_mem_cons.mp small
      cases others with
      | nil =>
          rw [List.flatMap_cons, List.append_assoc] at same
          exact absurd same (escapedPoint_append_ne_quote unit _ otherRest)
      | cons other others =>
          obtain ⟨otherIsSmall, otherRestIsSmall⟩ := List.forall_mem_cons.mp othersAreSmall
          rw [List.flatMap_cons, List.append_assoc, List.flatMap_cons, List.append_assoc] at same
          have isRead := readUnit?_escapedPoint unitIsSmall
            (units.flatMap escapedPoint ++ '"' :: rest)
          rw [same, readUnit?_escapedPoint otherIsSmall] at isRead
          obtain ⟨rfl, sameRest⟩ := Prod.mk.inj (Option.some.inj isRead)
          obtain ⟨rfl, sameEnd⟩ :=
            inductionHypothesis restIsSmall otherRestIsSmall sameRest.symm
          exact ⟨rfl, sameEnd⟩

/-- Code points are written as their units are. -/
theorem flatMap_escapedPoint_eq_units
    {points : List Nat}
    (arePoints : ∀ point ∈ points, point < 0x110000) :
    points.flatMap escapedPoint = (points.flatMap Text.pointUnits).flatMap escapedPoint := by
  rw [List.flatMap_assoc]
  exact List.flatMap_congr fun point member => escapedPoint_eq_flatMap (arePoints point member)

/--
Code points up to a closing quote are told, by how they are written, as far as their units go, and
so is what follows.
-/
theorem units_eq_of_written_eq
    {points others : List Nat}
    (arePoints : ∀ point ∈ points, point < 0x110000)
    (othersArePoints : ∀ point ∈ others, point < 0x110000)
    {rest otherRest : List Char}
    (same :
      points.flatMap escapedPoint ++ '"' :: rest =
        others.flatMap escapedPoint ++ '"' :: otherRest) :
    points.flatMap Text.pointUnits = others.flatMap Text.pointUnits ∧ rest = otherRest := by
  have haveSmallUnits
      {points : List Nat}
      (arePoints : ∀ point ∈ points, point < 0x110000) :
      ∀ unit ∈ points.flatMap Text.pointUnits, unit < 0x10000 := by
    intro unit isUnit
    obtain ⟨point, member, isUnit⟩ := List.mem_flatMap.mp isUnit
    exact Text.lt_of_mem_pointUnits (arePoints point member) isUnit
  rw [flatMap_escapedPoint_eq_units arePoints, flatMap_escapedPoint_eq_units othersArePoints]
    at same
  exact flatMap_escapedPoint_append_inj (haveSmallUnits arePoints) (haveSmallUnits othersArePoints)
    same

/-! ## Reading texts -/

/-- The written characters of a text are read up to the closing quote. -/
theorem readTextFrom_escaped
    (characters : List Char)
    (enough : characters.length < fuel) :
    ∃ positionAfter,
      readTextFrom start fuel collected
          ⟨position, characters.flatMap escapedChar ++ '"' :: rest⟩ =
        .ok (String.ofList (collected.reverse ++ characters),
          ⟨positionAfter, rest⟩) := by
  induction characters generalizing fuel collected position with
  | nil =>
      obtain ⟨fuel, rfl⟩ :=
        Nat.exists_eq_succ_of_ne_zero (Nat.ne_zero_of_lt enough)
      refine ⟨position + 1, ?_⟩
      rw [List.flatMap_nil, List.nil_append, readTextFrom]
      simp [Cursor.advance]
  | cons character others inductionHypothesis =>
      obtain ⟨fuel, rfl⟩ :=
        Nat.exists_eq_succ_of_ne_zero (Nat.ne_zero_of_lt enough)
      have more : others.flatMap escapedChar ++ '"' :: rest ≠ [] := by
        simp
      have one :
          ReadsTextTo start (fuel + 1) collected _ fuel
            (character :: collected) _ :=
        readsTextTo_escapedChar character more
      obtain ⟨next, step⟩ := one position
      rw [List.flatMap_cons, List.append_assoc, step]
      obtain ⟨positionAfter, read⟩ :=
        inductionHypothesis (Nat.lt_of_succ_lt_succ enough)
      refine ⟨positionAfter, ?_⟩
      rw [read, List.reverse_cons, List.append_assoc, List.singleton_append]

/-- A text in quotes is read back, whatever follows. -/
theorem readText_escaped
    (text : String)
    (position : Nat)
    (rest : List Char) :
    ∃ positionAfter,
      readText ⟨position, text.toList.flatMap escapedChar ++ '"' :: rest⟩ =
        .ok (text, ⟨positionAfter, rest⟩) := by
  have enough :
      text.toList.length <
        (text.toList.flatMap escapedChar ++ '"' :: rest).length + 1 := by
    have shorter :
        text.toList.length ≤ (text.toList.flatMap escapedChar).length := by
      induction text.toList with
      | nil =>
          exact Nat.le_refl 0
      | cons character others inductionHypothesis =>
          have := length_escapedChar_pos character
          rw [List.flatMap_cons, List.length_append, List.length_cons]
          omega
    rw [List.length_append]
    omega
  obtain ⟨positionAfter, read⟩ :=
    readTextFrom_escaped text.toList enough
  refine ⟨positionAfter, ?_⟩
  rw [readText, read]
  simp

end Tabular.Json
