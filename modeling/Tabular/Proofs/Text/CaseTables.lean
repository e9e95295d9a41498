import Tabular.Proofs.Text.CaseRuns
import Tabular.Proofs.Text.Units
import Tabular.Text.Blank

namespace Tabular.Text

/-!
# Case forms of characters

The tables of case forms, as far as repeated changes of case depend on them: a lower-case form has
no other lower-case form and an upper-case form no other upper-case form, and the capital of a
small letter comes back from its own small letter. Whole runs are compared, never single code
points. The ASCII letters have runs in the tables too, so that they need no rule of their own.
-/

namespace CaseRun

/-- The code points that a run moves, and where it moves them to, are characters. -/
def IsProper (run : CaseRun) : Prop :=
  run.first ≤ run.last ∧ 0 ≤ (run.first : Int) + run.offset ∧
    ((run.last : Int) + run.offset < 0xd800 ∨
      0xdfff < (run.first : Int) + run.offset ∧ (run.last : Int) + run.offset < 0x110000)

instance (run : CaseRun) : Decidable run.IsProper :=
  inferInstanceAs (Decidable (_ ∧ _ ∧ (_ ∨ _ ∧ _)))

variable {run : CaseRun} {point : Nat}

theorem IsProper.moves_images
    (isProper : run.IsProper)
    (moves : run.Moves point) :
    run.images.Moves (run.image point) :=
  moves_imageOf isProper.2.1 moves

theorem IsProper.toNat_ofNat
    (isProper : run.IsProper)
    (moves : run.Moves point) :
    (Char.ofNat (run.image point)).toNat = run.image point := by
  have isCharacter : (run.image point).isValidChar := by
    obtain ⟨-, notNegative, inRange⟩ := isProper
    obtain ⟨notBefore, notAfter, -⟩ := moves
    simp only [Nat.isValidChar, image]
    omega
  exact Text.toNat_ofNat isCharacter

/-- A run that covers another one moves the images of the other one where it moves these. -/
theorem IsProper.moves_imageOf_of_covers
    {other : CaseRun}
    (isProper : run.IsProper)
    (covers : run.covers other = true)
    (moves : other.Moves point) :
    (run.imageOf other).Moves (run.image point) := by
  refine moves_imageOf ?_ moves
  have startsInside : run.first ≤ other.first := by
    simp only [CaseRun.covers, Bool.and_eq_true, decide_eq_true_eq] at covers
    exact covers.1.1.1
  have notNegative := isProper.2.1
  omega

/-- Two runs whose offsets cancel move a code point there and back. -/
theorem IsProper.image_image
    {back : CaseRun}
    (isProper : run.IsProper)
    (moves : run.Moves point)
    (cancel : run.offset + back.offset = 0) :
    back.image (run.image point) = point := by
  have notNegative := isProper.2.1
  have notBefore := moves.1
  simp only [image]
  omega

end CaseRun

open CaseRun

/-! ## Characters by a table -/

/-- The character that the runs of a table make of one. -/
def moved (runs : List CaseRun) (character : Char) : Char :=
  ((CaseRun.find? runs character.toNat).map Char.ofNat).getD character

section

variable {runs : List CaseRun} {character : Char}

theorem moved_of_not_moves
    (unmoved : ∀ run ∈ runs, ¬run.Moves character.toNat) :
    moved runs character = character := by
  rw [moved, find?_eq_none_iff.mpr unmoved]
  rfl

/-- A character stays, or one of the runs moves it. -/
theorem moved_cases
    (areProper : ∀ run ∈ runs, run.IsProper)
    (character : Char) :
    (∀ run ∈ runs, ¬run.Moves character.toNat) ∧ moved runs character = character ∨
      ∃ run ∈ runs, run.Moves character.toNat ∧
        (moved runs character).toNat = run.image character.toNat := by
  cases isFound : CaseRun.find? runs character.toNat with
  | none =>
      have unmoved := find?_eq_none_iff.mp isFound
      exact .inl ⟨unmoved, moved_of_not_moves unmoved⟩
  | some target =>
      obtain ⟨run, member, moves, rfl⟩ := exists_of_find?_eq_some isFound
      refine .inr ⟨run, member, moves, ?_⟩
      rw [moved, isFound]
      exact (areProper run member).toNat_ofNat moves

theorem moved_of_moves
    {run : CaseRun}
    (areProper : ∀ run ∈ runs, run.IsProper)
    (chain : runs.IsChain Follows)
    (member : run ∈ runs)
    (moves : run.Moves character.toNat) :
    (moved runs character).toNat = run.image character.toNat := by
  rw [moved, find?_of_moves chain member moves]
  exact (areProper run member).toNat_ofNat moves

end

/-! ## The tables -/

/-- The characters whose upper-case forms have several characters. -/
def expansionKeys : List CaseRun :=
  upperExpansions.map fun entry => single entry.1

/-- The characters of the upper-case forms that have several. -/
def expansionCharacters : List CaseRun :=
  upperExpansions.flatMap fun entry => entry.2.toList.map fun character => single character.toNat

/-- The first characters of the upper-case forms that have several. -/
def expansionHeads : List CaseRun :=
  upperExpansions.flatMap fun entry =>
    (entry.2.toList.take 1).map fun character => single character.toNat

/-- The code points of the ASCII characters. -/
def asciiRun : CaseRun :=
  { first := 0, last := 127, step := 1, offset := 0 }

/-- The code points of the blanks. -/
def blankRuns : List CaseRun :=
  [⟨9, 13, 1, 0⟩, ⟨28, 32, 1, 0⟩, single 0x85, single 0xa0, single 0x1680,
    ⟨0x2000, 0x200a, 1, 0⟩, ⟨0x2028, 0x2029, 1, 0⟩, single 0x202f, single 0x205f, single 0x3000]

/--
The first run that goes at least as far as a code point. They are compared by `Nat.ble`, which is
computed at once on numerals.
-/
def reaching? (runs : List CaseRun) (point : Nat) : Option CaseRun :=
  runs.find? fun run => point.ble run.last

/--
One of the runs of lower case moves all images of a run of upper case, and one of the runs of upper
case moves them back, mostly the run itself.
-/
def comesBack (run : CaseRun) : Bool :=
  (reaching? lowerRuns run.images.last).any fun down =>
    down.covers run.images &&
      (run :: upperRuns).any fun up =>
        down.offset + up.offset == 0 && up.covers (down.imageOf run.images)

/-- What the tables are like, as far as repeated changes of case depend on them. -/
structure CaseTablesFit : Prop where
  lowerProper : ∀ run ∈ lowerRuns, run.IsProper
  upperProper : ∀ run ∈ upperRuns, run.IsProper
  lowerChain : lowerRuns.IsChain Follows
  upperChain : upperRuns.IsChain Follows
  lowerBeyondAscii : ∀ run ∈ lowerRuns.tail, 128 ≤ run.first
  upperBeyondAscii : ∀ run ∈ upperRuns.tail, 128 ≤ run.first
  dottedUnmoved : ∀ run ∈ lowerRuns, ¬run.Moves 'İ'.toNat
  blanksUnmoved :
    AreApart blankRuns ((single 'İ'.toNat :: lowerRuns) ++ (upperRuns ++ expansionKeys))
  keysApart : AreApart (asciiRun :: upperRuns) expansionKeys
  expansionsNotEmpty : ∀ entry ∈ upperExpansions, entry.2 ≠ ""
  lowerFormsStay : AreApart (lowerRuns.map images) ((single 'İ'.toNat :: lowerRuns) ++ blankRuns)
  upperFormsStay :
    AreApart (upperRuns.map images ++ expansionCharacters)
      ((upperRuns ++ expansionKeys) ++ single 'İ'.toNat :: blankRuns)
  headsRaised : AreWithin expansionHeads (single 'ʼ'.toNat :: upperRuns.map images)
  imagesNotEmpty : ∀ run ∈ single 'ʼ'.toNat :: upperRuns.map images, run.first ≤ run.last
  capitalsComeBack : ∀ run ∈ upperRuns, comesBack run = true

theorem caseTables_fit :
    CaseTablesFit where
  lowerProper := by decide +kernel
  upperProper := by decide +kernel
  lowerChain := by decide +kernel
  upperChain := by decide +kernel
  lowerBeyondAscii := by decide +kernel
  upperBeyondAscii := by decide +kernel
  dottedUnmoved := by decide +kernel
  blanksUnmoved := by decide +kernel
  keysApart := by decide +kernel
  expansionsNotEmpty := by decide +kernel
  lowerFormsStay := by decide +kernel
  upperFormsStay := by decide +kernel
  headsRaised := by decide +kernel
  imagesNotEmpty := by decide +kernel
  capitalsComeBack := by decide +kernel

theorem lowerCharacter_dotted :
    lowerCharacter 'İ' = ['i', '\u0307'] :=
  rfl

/-! ## Case forms by the tables -/

variable {character form first : Char} {rest : List Char}

/-- What holds of the first code points holds of the ASCII characters. -/
theorem of_ascii
    (property : Char → Prop)
    (all : ∀ point < 128, property (Char.ofNat point))
    (ascii : character.toNat < 128) :
    property character :=
  Char.ofNat_toNat character ▸ all character.toNat ascii

theorem moved_of_ascii
    {letters : CaseRun}
    {others : List CaseRun}
    (beyond : ∀ run ∈ others, 128 ≤ run.first)
    (ascii : character.toNat < 128) :
    moved (letters :: others) character = moved [letters] character := by
  rw [moved, moved, find?_cons_of_before fun other isOther => ascii.trans_le (beyond other isOther)]

/-- The ASCII letters have runs of their own, the first ones of the tables. -/
theorem toLower_eq_moved
    (ascii : character.toNat < 128) :
    character.toLower = moved lowerRuns character := by
  have isFirst : lowerRuns = ⟨65, 90, 1, 32⟩ :: lowerRuns.tail := rfl
  rw [isFirst, moved_of_ascii caseTables_fit.lowerBeyondAscii ascii]
  exact of_ascii (fun letter => letter.toLower = moved _ letter) (by decide) ascii

theorem toUpper_eq_moved
    (ascii : character.toNat < 128) :
    character.toUpper = moved upperRuns character := by
  have isFirst : upperRuns = ⟨97, 122, 1, -32⟩ :: upperRuns.tail := rfl
  rw [isFirst, moved_of_ascii caseTables_fit.upperBeyondAscii ascii]
  exact of_ascii (fun letter => letter.toUpper = moved _ letter) (by decide) ascii

theorem moves_asciiRun
    (ascii : character.toNat < 128) :
    asciiRun.Moves character.toNat :=
  ⟨Nat.zero_le _, Nat.le_of_lt_succ ascii, Nat.mod_one _⟩

theorem lowerCharacter_of_ne
    (other : character ≠ 'İ') :
    lowerCharacter character = [moved lowerRuns character] := by
  rw [lowerCharacter, if_neg other, simpleLower, if_neg other]
  split
  · next ascii =>
      rw [toLower_eq_moved ascii]
  · rfl

/-- An upper-case form stands among those of several characters, or the runs give it. -/
theorem upperCharacter_cases
    (character : Char) :
    (∃ entry ∈ upperExpansions, entry.1 = character.toNat ∧
        upperCharacter character = entry.2.toList) ∨
      (∀ key ∈ expansionKeys, ¬key.Moves character.toNat) ∧
        upperCharacter character = [moved upperRuns character] := by
  rw [upperCharacter]
  split
  · next ascii =>
      have noKey :=
        caseTables_fit.keysApart.not_moves List.mem_cons_self (moves_asciiRun ascii)
      exact .inr ⟨noKey, by rw [toUpper_eq_moved ascii]⟩
  · split
    · next entry isFound =>
        refine .inl ⟨entry, List.mem_of_find?_eq_some isFound, ?_, rfl⟩
        simpa using List.find?_some isFound
    · next noneFound =>
        refine .inr ⟨?_, rfl⟩
        intro key isKey moves
        obtain ⟨entry, member, rfl⟩ := List.mem_map.mp isKey
        have sameKey : entry.1 = character.toNat := le_antisymm moves.1 moves.2.1
        simpa [sameKey] using List.find?_eq_none.mp noneFound entry member

theorem lowerCharacter_ne_nil
    (character : Char) :
    lowerCharacter character ≠ [] := by
  rw [lowerCharacter]
  split <;> exact List.cons_ne_nil _ _

theorem upperCharacter_ne_nil
    (character : Char) :
    upperCharacter character ≠ [] := by
  rcases upperCharacter_cases character with ⟨entry, member, -, expands⟩ | ⟨-, isMoved⟩
  · rw [expands, ne_eq, String.toList_eq_nil_iff]
    exact caseTables_fit.expansionsNotEmpty entry member
  · exact isMoved ▸ List.cons_ne_nil _ _

theorem upperCharacter_of_no_key
    (noKey : ∀ key ∈ expansionKeys, ¬key.Moves character.toNat) :
    upperCharacter character = [moved upperRuns character] := by
  rcases upperCharacter_cases character with ⟨entry, member, sameKey, -⟩ | ⟨-, isMoved⟩
  · exact absurd (sameKey ▸ moves_single) (noKey _ (List.mem_map_of_mem member))
  · exact isMoved

/-! ## Where forms come from -/

/-- The character is its own lower-case form. -/
def IsLower (character : Char) : Prop :=
  lowerCharacter character = [character]

instance (character : Char) : Decidable (IsLower character) :=
  inferInstanceAs (Decidable (_ = _))

/-- The character is its own upper-case form. -/
def IsUpper (character : Char) : Prop :=
  upperCharacter character = [character]

instance (character : Char) : Decidable (IsUpper character) :=
  inferInstanceAs (Decidable (_ = _))

theorem isLower_of_unmoved
    (unmoved : ∀ run ∈ single 'İ'.toNat :: lowerRuns, ¬run.Moves character.toNat) :
    IsLower character := by
  obtain ⟨notDotted, notByRun⟩ := List.forall_mem_cons.mp unmoved
  have other : character ≠ 'İ' := by
    rintro rfl
    exact notDotted moves_single
  rw [IsLower, lowerCharacter_of_ne other, moved_of_not_moves notByRun]

theorem isUpper_of_unmoved
    (unmoved : ∀ run ∈ upperRuns ++ expansionKeys, ¬run.Moves character.toNat) :
    IsUpper character := by
  obtain ⟨notByRun, noKey⟩ := List.forall_mem_append.mp unmoved
  rw [IsUpper, upperCharacter_of_no_key noKey, moved_of_not_moves notByRun]

/-- A character in lower case is the character itself, or a run or the dot above makes it. -/
theorem lowerCharacter_origin
    (member : form ∈ lowerCharacter character) :
    form = character ∧ IsLower character ∨ character = 'İ' ∨
      ∃ run ∈ lowerRuns, run.Moves character.toNat ∧ run.images.Moves form.toNat := by
  by_cases isDotted : character = 'İ'
  · exact .inr (.inl isDotted)
  · rw [lowerCharacter_of_ne isDotted, List.mem_singleton] at member
    subst member
    rcases moved_cases caseTables_fit.lowerProper character with
      ⟨unmoved, stays⟩ | ⟨run, isRun, moves, isImage⟩
    · refine .inl ⟨stays, ?_⟩
      rw [IsLower, lowerCharacter_of_ne isDotted, stays]
    · refine .inr (.inr ⟨run, isRun, moves, ?_⟩)
      rw [isImage]
      exact (caseTables_fit.lowerProper run isRun).moves_images moves

/-- A character in upper case is the character itself, or a run makes it or an expansion. -/
theorem upperCharacter_origin
    (member : form ∈ upperCharacter character) :
    form = character ∧ IsUpper character ∨
      (∃ key ∈ expansionKeys, key.Moves character.toNat) ∧
        single form.toNat ∈ expansionCharacters ∨
      ∃ run ∈ upperRuns, run.Moves character.toNat ∧ run.images.Moves form.toNat := by
  rcases upperCharacter_cases character with ⟨entry, isEntry, sameKey, expands⟩ | ⟨noKey, isMoved⟩
  · rw [expands] at member
    exact
      .inr (.inl
        ⟨⟨single entry.1, List.mem_map_of_mem isEntry, sameKey ▸ moves_single⟩,
          List.mem_flatMap.mpr ⟨entry, isEntry, List.mem_map_of_mem member⟩⟩)
  · rw [isMoved, List.mem_singleton] at member
    subst member
    rcases moved_cases caseTables_fit.upperProper character with
      ⟨unmoved, stays⟩ | ⟨run, isRun, moves, isImage⟩
    · refine .inl ⟨stays, ?_⟩
      rw [IsUpper, isMoved, stays]
    · refine .inr (.inr ⟨run, isRun, moves, ?_⟩)
      rw [isImage]
      exact (caseTables_fit.upperProper run isRun).moves_images moves

/-! ## What forms are -/

theorem isBlankCharacter_iff :
    isBlankCharacter character = true ↔ ∃ run ∈ blankRuns, run.Moves character.toNat := by
  simp only [isBlankCharacter, blankRuns, single, Moves, List.mem_cons, List.not_mem_nil, or_false,
    exists_eq_or_imp, exists_eq_left, Nat.mod_one, and_true, Bool.or_eq_true, Bool.and_eq_true,
    decide_eq_true_eq, beq_iff_eq]
  omega

theorem not_blank_of_unmoved
    (unmoved : ∀ run ∈ blankRuns, ¬run.Moves form.toNat) :
    isBlankCharacter form = false := by
  rw [← Bool.not_eq_true, isBlankCharacter_iff]
  rintro ⟨run, isBlank, moves⟩
  exact unmoved run isBlank moves

/-- Blanks have no case. -/
theorem isLower_and_isUpper_of_blank
    (blank : isBlankCharacter character = true) :
    IsLower character ∧ IsUpper character := by
  obtain ⟨run, isBlank, moves⟩ := isBlankCharacter_iff.mp blank
  obtain ⟨notLowered, notRaised⟩ :=
    List.forall_mem_append.mp (caseTables_fit.blanksUnmoved.not_moves isBlank moves)
  exact ⟨isLower_of_unmoved notLowered, isUpper_of_unmoved notRaised⟩

/-- A character in lower case is the character itself, or it stays and is no blank. -/
theorem stays_of_mem_lowerCharacter
    (member : form ∈ lowerCharacter character) :
    form = character ∧ IsLower character ∨ IsLower form ∧ isBlankCharacter form = false := by
  rcases lowerCharacter_origin member with same | rfl | ⟨run, isRun, -, moves⟩
  · exact .inl same
  · rw [lowerCharacter_dotted] at member
    obtain rfl | rfl := List.mem_pair.mp member
    · exact .inr (by decide)
    · exact .inr (by decide)
  · obtain ⟨notLowered, notBlank⟩ :=
      List.forall_mem_append.mp
        (caseTables_fit.lowerFormsStay.not_moves (List.mem_map_of_mem isRun) moves)
    exact .inr ⟨isLower_of_unmoved notLowered, not_blank_of_unmoved notBlank⟩

/--
A character in upper case is the character itself, or it stays and is neither a blank nor the
capital with a dot.
-/
theorem stays_of_mem_upperCharacter
    (member : form ∈ upperCharacter character) :
    form = character ∧ IsUpper character ∨
      IsUpper form ∧ form ≠ 'İ' ∧ isBlankCharacter form = false := by
  have stays
      {run : CaseRun}
      (raised : run ∈ upperRuns.map images ++ expansionCharacters)
      (moves : run.Moves form.toNat) :
      IsUpper form ∧ form ≠ 'İ' ∧ isBlankCharacter form = false := by
    obtain ⟨notRaised, others⟩ :=
      List.forall_mem_append.mp (caseTables_fit.upperFormsStay.not_moves raised moves)
    obtain ⟨notDotted, notBlank⟩ := List.forall_mem_cons.mp others
    refine ⟨isUpper_of_unmoved notRaised, ?_, not_blank_of_unmoved notBlank⟩
    rintro rfl
    exact notDotted moves_single
  rcases upperCharacter_origin member with same | ⟨-, isPart⟩ | ⟨run, isRun, -, moves⟩
  · exact .inl same
  · exact .inr (stays (List.mem_append_right _ isPart) moves_single)
  · exact .inr (stays (List.mem_append_left _ (List.mem_map_of_mem isRun)) moves)

/-- A character of a lower-case form is its own lower-case form. -/
theorem isLower_of_mem_lowerCharacter
    (member : form ∈ lowerCharacter character) :
    IsLower form := by
  rcases stays_of_mem_lowerCharacter member with ⟨rfl, isLower⟩ | ⟨isLower, -⟩
  · exact isLower
  · exact isLower

/-- A character of an upper-case form is its own upper-case form. -/
theorem isUpper_of_mem_upperCharacter
    (member : form ∈ upperCharacter character) :
    IsUpper form := by
  rcases stays_of_mem_upperCharacter member with ⟨rfl, isUpper⟩ | ⟨isUpper, -⟩
  · exact isUpper
  · exact isUpper

/-- The capital with a dot is the upper-case form of itself only. -/
theorem eq_of_dotted_mem_upperCharacter
    (member : 'İ' ∈ upperCharacter character) :
    'İ' = character := by
  rcases stays_of_mem_upperCharacter member with ⟨same, -⟩ | ⟨-, notDotted, -⟩
  · exact same
  · exact absurd rfl notDotted

/-- Only a blank has a blank in its lower-case form. -/
theorem eq_of_blank_mem_lowerCharacter
    (member : form ∈ lowerCharacter character)
    (blank : isBlankCharacter form = true) :
    form = character := by
  rcases stays_of_mem_lowerCharacter member with ⟨same, -⟩ | ⟨-, notBlank⟩
  · exact same
  · exact absurd blank (Bool.not_eq_true _ ▸ notBlank)

/-- Only a blank has a blank in its upper-case form. -/
theorem eq_of_blank_mem_upperCharacter
    (member : form ∈ upperCharacter character)
    (blank : isBlankCharacter form = true) :
    form = character := by
  rcases stays_of_mem_upperCharacter member with ⟨same, -⟩ | ⟨-, -, notBlank⟩
  · exact same
  · exact absurd blank (Bool.not_eq_true _ ▸ notBlank)

/-! ## Capitals come back -/

/-- The character is the capital of its own small letter. -/
def IsCapital (character : Char) : Prop :=
  ∃ small, lowerCharacter character = [small] ∧ upperCharacter small = [character]

theorem isCapital_of_moves
    {run : CaseRun}
    (member : run ∈ upperRuns)
    (moves : run.images.Moves character.toNat) :
    IsCapital character := by
  have returns := caseTables_fit.capitalsComeBack run member
  simp only [comesBack, reaching?, Option.any_eq_true, List.any_eq_true, Bool.and_eq_true,
    beq_iff_eq] at returns
  obtain ⟨down, isDown, goesDown, up, isUp, cancel, goesUp⟩ := returns
  have downMember := List.mem_of_find?_eq_some isDown
  have upMember : up ∈ upperRuns := (List.mem_cons.mp isUp).elim (· ▸ member) id
  have movesDown := moves_of_covers goesDown moves
  have notDotted : character ≠ 'İ' := by
    rintro rfl
    exact caseTables_fit.dottedUnmoved down downMember movesDown
  have smallPoint :=
    moved_of_moves caseTables_fit.lowerProper caseTables_fit.lowerChain downMember movesDown
  have downProper := caseTables_fit.lowerProper down downMember
  have movesUp : up.Moves (moved lowerRuns character).toNat := by
    rw [smallPoint]
    exact moves_of_covers goesUp (downProper.moves_imageOf_of_covers goesDown moves)
  have noKey := caseTables_fit.keysApart.not_moves (List.mem_cons_of_mem _ upMember) movesUp
  have comesBack : (moved upperRuns (moved lowerRuns character)).toNat = character.toNat := by
    rw [moved_of_moves caseTables_fit.upperProper caseTables_fit.upperChain upMember movesUp,
      smallPoint, downProper.image_image movesDown cancel]
  refine ⟨moved lowerRuns character, lowerCharacter_of_ne notDotted, ?_⟩
  rw [upperCharacter_of_no_key noKey, Char.toNat_inj.mp comesBack]

/-- The upper-case form of a small letter begins with the capital of a small letter. -/
theorem isCapital_of_upperCharacter
    (isLower : IsLower character)
    (form : upperCharacter character = first :: rest) :
    IsCapital first := by
  have isCapital_of_isImage
      (isImage : ∃ run ∈ upperRuns.map images, run.Moves first.toNat) :
      IsCapital first := by
    obtain ⟨_, isImage, moves⟩ := isImage
    obtain ⟨run, member, rfl⟩ := List.mem_map.mp isImage
    exact isCapital_of_moves member moves
  rcases upperCharacter_cases character with ⟨entry, isEntry, -, expands⟩ | ⟨noKey, isMoved⟩
  · rw [expands] at form
    have isHead : single first.toNat ∈ expansionHeads :=
      List.mem_flatMap.mpr
        ⟨entry, isEntry, by rw [form]; exact List.mem_singleton.mpr rfl⟩
    obtain ⟨run, member, moves⟩ :=
      caseTables_fit.headsRaised.exists_moves caseTables_fit.imagesNotEmpty isHead moves_single
    rcases List.mem_cons.mp member with rfl | isImage
    · have isMark : first = 'ʼ' := Char.toNat_inj.mp (le_antisymm moves.2.1 moves.1)
      exact isMark ▸ ⟨'ʼ', by decide⟩
    · exact isCapital_of_isImage ⟨run, isImage, moves⟩
  · rw [isMoved] at form
    obtain ⟨rfl, -⟩ := List.cons.inj form
    rcases moved_cases caseTables_fit.upperProper character with
      ⟨-, stays⟩ | ⟨run, member, moves, isImage⟩
    · rw [stays]
      exact ⟨character, isLower, by rw [isMoved, stays]⟩
    · refine isCapital_of_isImage ⟨run.images, List.mem_map_of_mem member, ?_⟩
      rw [isImage]
      exact (caseTables_fit.upperProper run member).moves_images moves

end Tabular.Text
