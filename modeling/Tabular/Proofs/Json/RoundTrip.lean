import Tabular.Proofs.Json.Number
import Tabular.Proofs.Json.Text

namespace Tabular.Json

/-!
# Written documents read back

A written document is read back as itself, with the members of its objects in the order of their
keys. So two documents have the same text only when they are the same up to the order of members.
-/

open Decimal

mutual

/-- The document with the members of every object in the order of their keys. -/
def sorted : Json → Json
  | .array elements => .array (sortedElements elements)
  | .object members => .object (sortMembers (sortedMembers members))
  | document => document

/-- The elements with members in the order of their keys. -/
def sortedElements : List Json → List Json
  | [] => []
  | element :: rest => sorted element :: sortedElements rest

/-- The members with those of their values in the order of their keys. -/
def sortedMembers : List (String × Json) → List (String × Json)
  | [] => []
  | (key, value) :: rest => (key, sorted value) :: sortedMembers rest

end

/-- The text of a member. -/
def memberText (member : String × Json) : List Char :=
  quoted member.1 ++ ':' :: ' ' :: characters member.2

theorem elementTexts_eq
    (elements : List Json) :
    elementTexts elements = elements.map characters := by
  induction elements with
  | nil =>
      rfl
  | cons element rest inductionHypothesis =>
      rw [elementTexts, inductionHypothesis, List.map_cons]

theorem memberTexts_eq
    (members : List (String × Json)) :
    memberTexts members =
      members.map fun member => (member.1, memberText member) := by
  induction members with
  | nil =>
      rfl
  | cons member rest inductionHypothesis =>
      rw [memberTexts, inductionHypothesis, List.map_cons]
      rfl

theorem sortedElements_eq
    (elements : List Json) :
    sortedElements elements = elements.map sorted := by
  induction elements with
  | nil =>
      rfl
  | cons element rest inductionHypothesis =>
      rw [sortedElements, inductionHypothesis, List.map_cons]

theorem sortedMembers_eq
    (members : List (String × Json)) :
    sortedMembers members =
      members.map fun member => (member.1, member.2.sorted) := by
  induction members with
  | nil =>
      rfl
  | cons member rest inductionHypothesis =>
      rw [sortedMembers, inductionHypothesis, List.map_cons]

/-- Members stay in the order of their keys when their values are replaced. -/
theorem sortMembers_map
    {α β : Type}
    (image : String × α → β)
    (members : List (String × α)) :
    sortMembers (members.map fun member => (member.1, image member)) =
      (sortMembers members).map fun member => (member.1, image member) := by
  rw [sortMembers, sortMembers, List.map_mergeSort]
  intro _ _ _ _
  rfl

theorem characters_object
    (members : List (String × Json)) :
    characters (.object members) =
      '{' :: commaSeparated ((sortMembers members).map memberText) ++
        ['}'] := by
  rw [characters, memberTexts_eq, sortMembers_map, List.map_map]
  rfl

theorem characters_array
    (elements : List Json) :
    characters (.array elements) =
      '[' :: commaSeparated (elements.map characters) ++ [']'] := by
  rw [characters, elementTexts_eq]

/-- An object in order has its members in the order of their keys. -/
theorem sorted_object
    (members : List (String × Json)) :
    sorted (.object members) =
      .object
        ((sortMembers members).map fun member =>
          (member.1, member.2.sorted)) := by
  rw [sorted, sortedMembers_eq, sortMembers_map]

/-! ## Written numbers -/

/-- A document is written as a numeral with a sign that reads as it. -/
structure WrittenAs (document : Json) (negative : Bool) (numeral : Numeral) : Prop where
  characters :
    document.characters = signCharacters negative ++ numeral.characters
  reads : ofNumeral negative numeral = document

theorem writtenAs_int
    (value : Int) :
    WrittenAs (.int value) (value < 0) (naturalNumeral value.natAbs) where
  characters := by
    have numeral :
        (naturalNumeral value.natAbs).characters = digits value.natAbs := by
      simp [Numeral.characters, Numeral.fractionCharacters,
        Numeral.exponentCharacters, naturalNumeral]
    rw [Json.characters, numeral, Decimal.ofInt, String.toList_ofList]
    by_cases below : value < 0
    · simp [below, signCharacters]
    · simp [below, signCharacters]
  reads := by
    simp only [ofNumeral, naturalNumeral, Option.isNone_none, Bool.and_self,
      if_true, digitsValue_digits, decide_eq_true_eq]
    congr 1
    split
    · omega
    · omega

/-- A finite binary64 number is written as a numeral. -/
theorem exists_writtenAs_float
    (negative : Bool)
    (significand : Nat)
    (exponent : Int)
    (canonical : CanonicalPair significand exponent) :
    ∃ numeral,
      WrittenAs (.float (.finite negative significand exponent canonical))
        negative numeral := by
  rcases Nat.eq_zero_or_pos significand with rfl | positive
  · refine ⟨zeroNumeral, ?_, ?_⟩
    · rw [Json.characters, Binary64.writtenAs, if_pos rfl,
        String.toList_ofList]
      cases negative with
      | true =>
          rfl
      | false =>
          rfl
    · have least : exponent = -1074 :=
        canonical.2.2.2.resolve_left (by decide)
      subst least
      rfl
  · obtain ⟨numeral, written, notWhole, number⟩ :=
      Binary64.exists_numeral floatFormat canonical positive
    refine ⟨numeral, ?_, ?_⟩
    · rw [Json.characters, Binary64.writtenAs, if_neg positive.ne', written,
        String.toList_ofList]
      cases negative with
      | true =>
          rfl
      | false =>
          rfl
    · have notInteger :
          (numeral.fraction.isNone && numeral.exponent.isNone) = false := by
        rcases notWhole with fraction | exponent
        · simp [Option.isNone_eq_false_iff.mpr fraction]
        · simp [Option.isNone_eq_false_iff.mpr exponent]
      rw [ofNumeral, notInteger, number]
      rfl

/-! ## Reading scalars -/

/-- The reader reads the document where it is written, up to what delimits it. -/
def ReadsBack (document : Json) : Prop :=
  ∀ fuel position rest,
    Delimited rest →
      document.characters.length ≤ fuel →
        ∃ positionAfter,
          readValue fuel ⟨position, document.characters ++ rest⟩ =
            .ok (document.sorted, ⟨positionAfter, rest⟩)

/-- A numeral starts with a digit. -/
theorem exists_first_digit
    (numeral : Numeral) :
    ∃ digit tail,
      numeral.characters = digit :: tail ∧ digit.isDigit := by
  obtain ⟨nonempty, areDigits⟩ := numeral.wholeIsDigits
  obtain ⟨digit, tail, whole⟩ := List.exists_cons_of_ne_nil nonempty
  refine
    ⟨digit,
      tail ++ numeral.fractionCharacters ++ numeral.exponentCharacters, ?_,
      areDigits digit (by simp [whole])⟩
  rw [Numeral.characters, whole]
  rfl

theorem ne_of_isDigit
    {digit other : Char}
    (isDigit : digit.isDigit)
    (notDigit : other.isDigit = false) :
    digit ≠ other := by
  rintro rfl
  rw [isDigit] at notDigit
  exact absurd notDigit (by decide)

/-- A number starts with a minus or a digit. -/
theorem number_ne_cons
    (negative : Bool)
    (numeral : Numeral)
    {character : Char}
    (notMinus : character ≠ '-')
    (notDigit : character.isDigit = false)
    (rest tail : List Char) :
    signCharacters negative ++ (numeral.characters ++ rest) ≠
      character :: tail := by
  obtain ⟨digit, others, starts, isDigit⟩ := exists_first_digit numeral
  rw [starts]
  intro same
  cases negative with
  | true =>
      exact notMinus (List.cons.inj same).1.symm
  | false =>
      exact ne_of_isDigit isDigit notDigit (List.cons.inj same).1

/-- No word of the grammar stands where a number does. -/
theorem readWord?_number
    (negative : Bool)
    (numeral : Numeral)
    (position : Nat)
    (rest : List Char) :
    readWord?
        ⟨position, signCharacters negative ++ (numeral.characters ++ rest)⟩ =
      none := by
  obtain ⟨digit, tail, starts, isDigit⟩ := exists_first_digit numeral
  have other (letter : Char) (notDigit : letter.isDigit = false) :
      letter ≠ digit :=
    (ne_of_isDigit isDigit notDigit).symm
  rw [starts]
  cases negative with
  | true =>
      simp [readWord?, words, signCharacters, other 'I' rfl]
  | false =>
      simp [readWord?, words, signCharacters, other 'I' rfl, other 'n' rfl,
        other 't' rfl, other 'f' rfl, other 'N' rfl, other '-' rfl]

/-- A character that starts neither a text nor an array nor an object. -/
def StartsScalar (characters : List Char) : Prop :=
  ∀ tail,
    characters ≠ '"' :: tail ∧ characters ≠ '[' :: tail ∧
      characters ≠ '{' :: tail

/-- Where nothing else starts, a word of the grammar or a number is read. -/
theorem readValue_scalar
    {cursor : Cursor}
    (fuel : Nat)
    (scalar : StartsScalar cursor.rest) :
    readValue (fuel + 1) cursor =
      match readWord? cursor with
      | some result => .ok result
      | none => readNumber cursor := by
  rw [readValue]
  split
  · next starts => exact absurd starts (scalar _).1
  · next starts => exact absurd starts (scalar _).2.1
  · next starts => exact absurd starts (scalar _).2.2
  · rfl

theorem readsBack_number
    {document : Json}
    {negative : Bool}
    {numeral : Numeral}
    (written : WrittenAs document negative numeral)
    (scalar : document.sorted = document) :
    ReadsBack document := by
  intro fuel position rest delimited enough
  obtain ⟨digit, tail, starts, isDigit⟩ := exists_first_digit numeral
  obtain ⟨positionAfter, read⟩ :=
    readNumber_characters numeral negative position delimited
  refine ⟨positionAfter, ?_⟩
  have nonempty : 0 < document.characters.length := by
    rw [written.characters, starts]
    simp
  obtain ⟨fuel, rfl⟩ : ∃ less, fuel = less + 1 := ⟨fuel - 1, by omega⟩
  rw [scalar, written.characters, List.append_assoc, readValue_scalar,
    readWord?_number, read, written.reads]
  intro tail
  exact
    ⟨number_ne_cons negative numeral (by decide) (by decide) _ _,
      number_ne_cons negative numeral (by decide) (by decide) _ _,
      number_ne_cons negative numeral (by decide) (by decide) _ _⟩

/-- Words of the grammar that stand at the same place are the same. -/
theorem word_eq_of_isPrefixOf
    {word other : String × Json}
    (known : word ∈ words)
    (otherKnown : other ∈ words)
    (rest : List Char)
    (stands : other.1.toList.isPrefixOf (word.1.toList ++ rest)) :
    other = word := by
  simp only [words, List.mem_cons, List.not_mem_nil, or_false] at known otherKnown
  rcases known with rfl | rfl | rfl | rfl | rfl | rfl
  all_goals
    rcases otherKnown with rfl | rfl | rfl | rfl | rfl | rfl
    all_goals
      first
      | rfl
      | exact absurd stands (by simp)

/-- A word of the grammar is found where it stands. -/
theorem readWord?_word
    {document : Json}
    {word : String}
    (known : (word, document) ∈ words)
    (position : Nat)
    (rest : List Char) :
    readWord? ⟨position, word.toList ++ rest⟩ =
      some (document, ⟨position + word.length, rest⟩) := by
  have stands :
      word.toList.isPrefixOf (word.toList ++ rest) = true := by
    simp
  have found :
      (words.find? fun entry =>
          entry.1.toList.isPrefixOf (word.toList ++ rest)) =
        some (word, document) := by
    rcases first : words.find? _ with _ | entry
    · exact absurd stands (List.find?_eq_none.mp first _ known)
    · have alsoStands :
          entry.1.toList.isPrefixOf (word.toList ++ rest) = true := by
        simpa using List.find?_some first
      rw [word_eq_of_isPrefixOf known (List.mem_of_find?_eq_some first) rest
        alsoStands]
  have advanced :
      Cursor.advance ⟨position, word.toList ++ rest⟩ word.length =
        ⟨position + word.length, rest⟩ := by
    simp [Cursor.advance, ← String.length_toList]
  rw [readWord?, found, Option.map_some, advanced]

/-- A word of the grammar starts no text, no array and no object. -/
theorem startsScalar_word
    {document : Json}
    {word : String}
    (known : (word, document) ∈ words)
    (rest : List Char) :
    StartsScalar (word.toList ++ rest) := by
  simp only [words, List.mem_cons, Prod.mk.injEq, List.not_mem_nil,
    or_false] at known
  intro tail
  obtain ⟨rfl, _⟩ | ⟨rfl, _⟩ | ⟨rfl, _⟩ | ⟨rfl, _⟩ | ⟨rfl, _⟩ |
      ⟨rfl, _⟩ := known
  all_goals simp

theorem readsBack_word
    {document : Json}
    (word : String)
    (known : (word, document) ∈ words)
    (written : document.characters = word.toList)
    (scalar : document.sorted = document) :
    ReadsBack document := by
  intro fuel position rest _ enough
  refine ⟨position + word.length, ?_⟩
  have nonempty : 0 < document.characters.length := by
    rw [written]
    refine List.length_pos_iff.mpr fun none => ?_
    have := startsScalar_word known ['"'] []
    rw [none] at this
    exact this.1 rfl
  obtain ⟨fuel, rfl⟩ : ∃ less, fuel = less + 1 := ⟨fuel - 1, by omega⟩
  rw [scalar, written, readValue_scalar fuel (startsScalar_word known rest),
    readWord?_word known]

theorem readsBack_text
    (value : String) :
    ReadsBack (.text value) := by
  intro fuel position rest _ enough
  have nonempty : 0 < (characters (.text value)).length := by
    simp [characters, quoted]
  obtain ⟨fuel, rfl⟩ : ∃ less, fuel = less + 1 := ⟨fuel - 1, by omega⟩
  obtain ⟨positionAfter, read⟩ := readText_escaped value (position + 1) rest
  refine ⟨positionAfter, ?_⟩
  rw [characters, quoted, List.cons_append, List.cons_append,
    List.append_assoc, List.singleton_append, readValue]
  simp [Cursor.advance, read, sorted, bind, Except.bind]

/-! ## Reading arrays and objects -/

/-- A document starts with a character that is no blank and no closing bracket. -/
theorem exists_first
    (document : Json) :
    ∃ first tail,
      document.characters = first :: tail ∧
        Cursor.isSpace first = false ∧ first ≠ ']' := by
  have ofNumber {document : Json} {negative : Bool} {numeral : Numeral}
      (written : WrittenAs document negative numeral) :
      ∃ first tail,
        document.characters = first :: tail ∧
          Cursor.isSpace first = false ∧ first ≠ ']' := by
    obtain ⟨digit, tail, starts, isDigit⟩ := exists_first_digit numeral
    have other (letter : Char) (notDigit : letter.isDigit = false) :
        digit ≠ letter :=
      ne_of_isDigit isDigit notDigit
    rw [written.characters, starts]
    cases negative with
    | true =>
        exact ⟨'-', digit :: tail, rfl, by decide, by decide⟩
    | false =>
        refine ⟨digit, tail, rfl, ?_, other ']' rfl⟩
        simp [Cursor.isSpace, other ' ' rfl, other '\t' rfl, other '\n' rfl,
          other '\r' rfl]
  cases document with
  | null =>
      exact ⟨'n', _, rfl, by decide, by decide⟩
  | bool value =>
      cases value with
      | true =>
          exact ⟨'t', _, rfl, by decide, by decide⟩
      | false =>
          exact ⟨'f', _, rfl, by decide, by decide⟩
  | int value =>
      exact ofNumber (writtenAs_int value)
  | float value =>
      cases value with
      | nan =>
          exact ⟨'N', _, rfl, by decide, by decide⟩
      | infinite negative =>
          cases negative with
          | true =>
              exact ⟨'-', _, rfl, by decide, by decide⟩
          | false =>
              exact ⟨'I', _, rfl, by decide, by decide⟩
      | finite negative significand exponent canonical =>
          obtain ⟨numeral, written⟩ :=
            exists_writtenAs_float negative significand exponent canonical
          exact ofNumber written
  | text value =>
      exact ⟨'"', _, rfl, by decide, by decide⟩
  | array elements =>
      exact ⟨'[', _, rfl, by decide, by decide⟩
  | object members =>
      exact ⟨'{', _, rfl, by decide, by decide⟩

theorem skipSpace_of_not_space
    {characters : List Char}
    (position : Nat)
    (notSpace : ∀ character ∈ characters.head?, Cursor.isSpace character = false) :
    Cursor.skipSpace ⟨position, characters⟩ = ⟨position, characters⟩ := by
  have nothing : characters.takeWhile Cursor.isSpace = [] := by
    cases characters with
    | nil =>
        rfl
    | cons character rest =>
        simp [notSpace character rfl]
  simp [Cursor.skipSpace, nothing, Cursor.advance]

theorem skipSpace_blank
    {characters : List Char}
    (position : Nat)
    (notSpace : ∀ character ∈ characters.head?, Cursor.isSpace character = false) :
    Cursor.skipSpace ⟨position, ' ' :: characters⟩ =
      ⟨position + 1, characters⟩ := by
  have nothing : characters.takeWhile Cursor.isSpace = [] := by
    cases characters with
    | nil =>
        rfl
    | cons character rest =>
        simp [notSpace character rfl]
  simp [Cursor.skipSpace, nothing, Cursor.advance,
    show Cursor.isSpace ' ' = true from rfl]

/-- Nothing blank stands before what delimits. -/
theorem skipSpace_delimited
    {rest : List Char}
    (position : Nat)
    (delimited : Delimited rest) :
    Cursor.skipSpace ⟨position, rest⟩ = ⟨position, rest⟩ := by
  refine skipSpace_of_not_space position fun character first => ?_
  rcases delimited character first with rfl | rfl | rfl
  all_goals decide

/-- Pieces start as the first of them. -/
theorem head?_commaSeparated
    {piece : List Char}
    (nonempty : piece ≠ [])
    (pieces : List (List Char))
    (rest : List Char) :
    (commaSeparated (piece :: pieces) ++ rest).head? = piece.head? := by
  cases pieces with
  | nil =>
      exact List.head?_append_of_ne_nil _ nonempty
  | cons next others =>
      rw [commaSeparated, List.append_assoc]
      · exact List.head?_append_of_ne_nil _ nonempty
      · simp

/-- Pieces of which the first starts with no blank start with none. -/
theorem notSpace_commaSeparated
    {piece : List Char}
    (starts :
      ∃ first tail, piece = first :: tail ∧ Cursor.isSpace first = false)
    (pieces : List (List Char))
    (rest : List Char) :
    ∀ character ∈ (commaSeparated (piece :: pieces) ++ rest).head?,
      Cursor.isSpace character = false := by
  obtain ⟨first, tail, rfl, notSpace⟩ := starts
  intro character isFirst
  rw [head?_commaSeparated (by simp)] at isFirst
  cases isFirst
  exact notSpace

theorem exists_visible
    (document : Json) :
    ∃ first tail,
      document.characters = first :: tail ∧
        Cursor.isSpace first = false := by
  obtain ⟨first, tail, starts, notSpace, _⟩ := exists_first document
  exact ⟨first, tail, starts, notSpace⟩

theorem exists_visible_member
    (member : String × Json) :
    ∃ first tail,
      memberText member = first :: tail ∧ Cursor.isSpace first = false :=
  ⟨'"', _, rfl, by decide⟩

/--
Elements that are read back one by one are read back up to the end of their array. Each element
takes one unit of the fuel, and its text at least one character.
-/
theorem readElements_characters
    {elements : List Json}
    (readBack : ∀ element ∈ elements, ReadsBack element)
    (nonempty : elements ≠ [])
    (fuel position : Nat)
    (collected : List Json)
    (rest : List Char)
    (enough :
      (commaSeparated (elements.map characters)).length < fuel) :
    ∃ positionAfter,
      readElements fuel collected
          ⟨position,
            commaSeparated (elements.map characters) ++ ']' :: rest⟩ =
        .ok (.array (collected.reverse ++ elements.map sorted),
          ⟨positionAfter, rest⟩) := by
  induction elements generalizing fuel position collected with
  | nil =>
      exact absurd rfl nonempty
  | cons element others inductionHypothesis =>
      obtain ⟨fuel, rfl⟩ : ∃ less, fuel = less + 1 :=
        ⟨fuel - 1, by omega⟩
      have elementReadsBack := readBack element List.mem_cons_self
      cases others with
      | nil =>
          obtain ⟨positionAfter, read⟩ :=
            elementReadsBack fuel position (']' :: rest) (.bracket rest)
              (Nat.le_of_lt_succ enough)
          refine ⟨positionAfter + 1, ?_⟩
          simp only [List.map_cons, List.map_nil, commaSeparated,
            readElements, read, bind, Except.bind,
            skipSpace_delimited positionAfter (.bracket rest)]
          simp [Cursor.advance]
      | cons next more =>
          have split :
              commaSeparated ((element :: next :: more).map characters) =
                element.characters ++
                  ',' :: ' ' :: commaSeparated ((next :: more).map characters) :=
            rfl
          rw [split, List.length_append, List.length_cons, List.length_cons]
            at enough
          obtain ⟨middle, read⟩ :=
            elementReadsBack fuel position
              (',' :: ' ' ::
                (commaSeparated ((next :: more).map characters) ++
                  ']' :: rest))
              (.comma _) (by omega)
          have blank :=
            skipSpace_blank (middle + 1)
              (notSpace_commaSeparated (exists_visible next)
                (more.map characters) (']' :: rest))
          obtain ⟨positionAfter, readRest⟩ :=
            inductionHypothesis
              (fun other member =>
                readBack other (List.mem_cons_of_mem element member))
              (by simp) fuel (middle + 1 + 1) (element.sorted :: collected)
              (by omega)
          refine ⟨positionAfter, ?_⟩
          rw [List.map_cons] at read readRest
          rw [split, List.append_assoc, List.cons_append, List.cons_append,
            readElements]
          simp only [List.map_cons, read, bind, Except.bind,
            skipSpace_delimited middle (.comma _), Cursor.advance,
            List.drop_succ_cons, List.drop_zero, blank, readRest]
          simp

/-- The key of a member is read, and then its value, up to what delimits it. -/
theorem exists_reads_member
    {member : String × Json}
    (readBack : ReadsBack member.2)
    (fuel position : Nat)
    {rest : List Char}
    (delimited : Delimited rest)
    (enough : (memberText member).length ≤ fuel) :
    ∃ keyEnd valueEnd,
      readText
          ⟨position + 1,
            member.1.toList.flatMap escapedChar ++
              '"' :: ':' :: ' ' :: (member.2.characters ++ rest)⟩ =
        .ok (member.1,
          ⟨keyEnd, ':' :: ' ' :: (member.2.characters ++ rest)⟩) ∧
      readValue fuel ⟨keyEnd + 1 + 1, member.2.characters ++ rest⟩ =
        .ok (member.2.sorted, ⟨valueEnd, rest⟩) := by
  obtain ⟨keyEnd, keyRead⟩ :=
    readText_escaped member.1 (position + 1)
      (':' :: ' ' :: (member.2.characters ++ rest))
  obtain ⟨valueEnd, valueRead⟩ :=
    readBack fuel (keyEnd + 1 + 1) rest delimited (by
      simp only [memberText, quoted, List.length_append, List.length_cons]
        at enough
      omega)
  exact ⟨keyEnd, valueEnd, keyRead, valueRead⟩

theorem memberText_append
    (member : String × Json)
    (rest : List Char) :
    memberText member ++ rest =
      '"' ::
        (member.1.toList.flatMap escapedChar ++
          '"' :: ':' :: ' ' :: (member.2.characters ++ rest)) := by
  simp [memberText, quoted]

/-- Nothing blank stands before the value of a member, apart from the blank after its colon. -/
theorem skipSpace_value
    (position : Nat)
    (value : Json)
    (rest : List Char) :
    Cursor.skipSpace ⟨position, ' ' :: (value.characters ++ rest)⟩ =
      ⟨position + 1, value.characters ++ rest⟩ := by
  obtain ⟨first, tail, starts, notSpace⟩ := exists_visible value
  refine skipSpace_blank position fun character isFirst => ?_
  rw [starts] at isFirst
  cases isFirst
  exact notSpace

/-- Members whose values are read back are read back up to the end of their object. -/
theorem readMembers_memberText
    {members : List (String × Json)}
    (readBack : ∀ member ∈ members, ReadsBack member.2)
    (nonempty : members ≠ [])
    (fuel position : Nat)
    (collected : List (String × Json))
    (rest : List Char)
    (enough :
      (commaSeparated (members.map memberText)).length < fuel) :
    ∃ positionAfter,
      readMembers fuel collected
          ⟨position,
            commaSeparated (members.map memberText) ++ '}' :: rest⟩ =
        .ok
          (.object
            (collected.reverse ++
              members.map fun member => (member.1, member.2.sorted)),
          ⟨positionAfter, rest⟩) := by
  have noColonBlank (position : Nat) (tail : List Char) :
      Cursor.skipSpace ⟨position, ':' :: tail⟩ = ⟨position, ':' :: tail⟩ := by
    refine skipSpace_of_not_space position fun character isFirst => ?_
    cases isFirst
    decide
  induction members generalizing fuel position collected with
  | nil =>
      exact absurd rfl nonempty
  | cons member others inductionHypothesis =>
      obtain ⟨fuel, rfl⟩ : ∃ less, fuel = less + 1 :=
        ⟨fuel - 1, by omega⟩
      have memberReadsBack := readBack member List.mem_cons_self
      cases others with
      | nil =>
          obtain ⟨keyEnd, valueEnd, keyRead, valueRead⟩ :=
            exists_reads_member memberReadsBack fuel position
              (.brace rest) (Nat.le_of_lt_succ enough)
          refine ⟨valueEnd + 1, ?_⟩
          rw [List.map_cons, List.map_nil, commaSeparated,
            memberText_append, readMembers]
          simp only [Cursor.advance, List.drop_succ_cons, List.drop_zero,
            keyRead, bind, Except.bind, noColonBlank, skipSpace_value,
            valueRead, skipSpace_delimited valueEnd (.brace rest)]
          simp
      | cons next more =>
          have split :
              commaSeparated ((member :: next :: more).map memberText) =
                memberText member ++
                  ',' :: ' ' :: commaSeparated ((next :: more).map memberText) :=
            rfl
          rw [split, List.length_append, List.length_cons, List.length_cons]
            at enough
          obtain ⟨keyEnd, valueEnd, keyRead, valueRead⟩ :=
            exists_reads_member memberReadsBack fuel position
              (.comma
                (' ' ::
                  (commaSeparated ((next :: more).map memberText) ++
                    '}' :: rest)))
              (by omega)
          have blank :=
            skipSpace_blank (valueEnd + 1)
              (notSpace_commaSeparated (exists_visible_member next)
                (more.map memberText) ('}' :: rest))
          obtain ⟨positionAfter, readRest⟩ :=
            inductionHypothesis
              (fun other among =>
                readBack other (List.mem_cons_of_mem member among))
              (by simp) fuel (valueEnd + 1 + 1)
              ((member.1, member.2.sorted) :: collected) (by omega)
          refine ⟨positionAfter, ?_⟩
          rw [List.map_cons] at keyRead valueRead readRest
          rw [split, List.append_assoc, List.cons_append, List.cons_append,
            memberText_append, readMembers]
          simp only [List.map_cons, Cursor.advance, List.drop_succ_cons,
            List.drop_zero, keyRead, bind, Except.bind, noColonBlank,
            skipSpace_value, valueRead,
            skipSpace_delimited valueEnd (.comma _), blank, readRest]
          simp

theorem readsBack_array
    {elements : List Json}
    (readBack : ∀ element ∈ elements, ReadsBack element) :
    ReadsBack (.array elements) := by
  intro fuel position rest _ enough
  rw [characters_array, List.length_append, List.length_cons] at enough
  obtain ⟨fuel, rfl⟩ : ∃ less, fuel = less + 1 := ⟨fuel - 1, by omega⟩
  rw [characters_array, List.append_assoc, List.cons_append,
    List.singleton_append, readValue, sorted, sortedElements_eq]
  cases elements with
  | nil =>
      refine ⟨position + 1 + 1, ?_⟩
      have noBlank :=
        skipSpace_delimited (position + 1) (.bracket rest)
      simp [commaSeparated, Cursor.advance, noBlank]
  | cons element others =>
      obtain ⟨positionAfter, read⟩ :=
        readElements_characters readBack (by simp) fuel (position + 1) [] rest
          (by simp at enough ⊢; omega)
      refine ⟨positionAfter, ?_⟩
      have noBlank :=
        skipSpace_of_not_space (position + 1)
          (notSpace_commaSeparated (exists_visible element)
            (others.map characters) (']' :: rest))
      have notClosed (tail : List Char) :
          commaSeparated (element.characters :: others.map characters) ++
              ']' :: rest ≠
            ']' :: tail := by
        intro closed
        obtain ⟨first, others, starts, _, notBracket⟩ := exists_first element
        have isFirst := congrArg List.head? closed
        rw [head?_commaSeparated (by simp [starts]), starts] at isFirst
        exact notBracket (Option.some.inj isFirst)
      rw [List.map_cons] at read ⊢
      simp only [Cursor.advance, List.drop_succ_cons, List.drop_zero, noBlank]
      rw [read]
      rfl

theorem readsBack_object
    {members : List (String × Json)}
    (readBack : ∀ member ∈ members, ReadsBack member.2) :
    ReadsBack (.object members) := by
  intro fuel position rest _ enough
  rw [characters_object, List.length_append, List.length_cons] at enough
  obtain ⟨fuel, rfl⟩ : ∃ less, fuel = less + 1 := ⟨fuel - 1, by omega⟩
  have sameMembers :
      ∀ member ∈ sortMembers members, ReadsBack member.2 :=
    fun member among => readBack member (List.mem_mergeSort.mp among)
  rw [characters_object, List.append_assoc, List.cons_append,
    List.singleton_append, readValue, sorted_object]
  generalize sortMembers members = ordered at enough sameMembers ⊢
  cases ordered with
  | nil =>
      refine ⟨position + 1 + 1, ?_⟩
      have noBlank := skipSpace_delimited (position + 1) (.brace rest)
      simp [commaSeparated, Cursor.advance, noBlank]
  | cons member others =>
      obtain ⟨positionAfter, read⟩ :=
        readMembers_memberText sameMembers (by simp) fuel (position + 1) []
          rest (by simp at enough ⊢; omega)
      refine ⟨positionAfter, ?_⟩
      have noBlank :=
        skipSpace_of_not_space (position + 1)
          (notSpace_commaSeparated (exists_visible_member member)
            (others.map memberText) ('}' :: rest))
      have notClosed (tail : List Char) :
          commaSeparated (memberText member :: others.map memberText) ++
              '}' :: rest ≠
            '}' :: tail := by
        intro closed
        have isFirst := congrArg List.head? closed
        rw [head?_commaSeparated (by simp [memberText, quoted])] at isFirst
        exact absurd (Option.some.inj isFirst) (by decide)
      rw [List.map_cons] at read ⊢
      simp only [Cursor.advance, List.drop_succ_cons, List.drop_zero, noBlank]
      rw [read]
      rfl

/-! ## Reading documents -/

mutual

/-- Every written document is read back. -/
theorem readsBack :
    ∀ document : Json, ReadsBack document
  | .null =>
      readsBack_word "null" (by simp [words]) rfl rfl
  | .bool true =>
      readsBack_word "true" (by simp [words]) rfl rfl
  | .bool false =>
      readsBack_word "false" (by simp [words]) rfl rfl
  | .int value =>
      readsBack_number (writtenAs_int value) rfl
  | .float .nan =>
      readsBack_word "NaN" (by simp [words]) rfl rfl
  | .float (.infinite true) =>
      readsBack_word "-Infinity" (by simp [words]) rfl rfl
  | .float (.infinite false) =>
      readsBack_word "Infinity" (by simp [words]) rfl rfl
  | .float (.finite negative significand exponent canonical) => by
      obtain ⟨numeral, written⟩ :=
        exists_writtenAs_float negative significand exponent canonical
      exact readsBack_number written rfl
  | .text value =>
      readsBack_text value
  | .array elements =>
      readsBack_array (readsBack_elements elements)
  | .object members =>
      readsBack_object (readsBack_members members)

theorem readsBack_elements :
    ∀ (elements : List Json), ∀ element ∈ elements, ReadsBack element
  | [], _, member => absurd member List.not_mem_nil
  | first :: rest, element, member => by
      rcases List.mem_cons.mp member with same | later
      · rw [same]
        exact readsBack first
      · exact readsBack_elements rest element later

theorem readsBack_members :
    ∀ (members : List (String × Json)), ∀ member ∈ members, ReadsBack member.2
  | [], _, among => absurd among List.not_mem_nil
  | (key, value) :: rest, member, among => by
      rcases List.mem_cons.mp among with same | later
      · rw [same]
        exact readsBack value
      · exact readsBack_members rest member later

end

/-- Documents up to a delimiter are told by how they are written, and so is what follows. -/
theorem characters_append_inj
    {document other : Json}
    {rest otherRest : List Char}
    (delimited : Delimited rest)
    (otherDelimited : Delimited otherRest)
    (same : document.characters ++ rest = other.characters ++ otherRest) :
    document.sorted = other.sorted ∧ rest = otherRest := by
  have enough := Nat.le_max_left document.characters.length other.characters.length
  have enoughToo := Nat.le_max_right document.characters.length other.characters.length
  obtain ⟨positionAfter, isRead⟩ := readsBack document _ 0 rest delimited enough
  obtain ⟨otherPosition, otherIsRead⟩ := readsBack other _ 0 otherRest otherDelimited enoughToo
  rw [same, otherIsRead, Except.ok.injEq, Prod.mk.injEq, Cursor.mk.injEq] at isRead
  exact ⟨isRead.1.symm, isRead.2.2.symm⟩

/-- Where a quote stands, nothing but a text is written. -/
theorem exists_text_of_characters_eq
    {document : Json}
    {rest tail : List Char}
    (delimited : Delimited rest)
    (starts : document.characters ++ rest = '"' :: tail) :
    ∃ text, document.sorted = .text text := by
  obtain ⟨positionAfter, isRead⟩ :=
    readsBack document (document.characters.length + 1) 0 rest delimited (Nat.le_succ _)
  rw [starts, readValue] at isRead
  simp only [bind, Except.bind] at isRead
  split at isRead
  · cases isRead
  · next read _ =>
      exact ⟨read.1, (congrArg Prod.fst (Except.ok.inj isRead)).symm⟩

/-- A written document is read as itself, with the members of objects in the order of their keys. -/
theorem read_written
    (document : Json) :
    read document.written = .ok document.sorted := by
  obtain ⟨first, tail, starts, notSpace⟩ := exists_visible document
  have noBlank :
      Cursor.skipSpace ⟨0, document.characters⟩ = ⟨0, document.characters⟩ := by
    refine skipSpace_of_not_space 0 fun character isFirst => ?_
    rw [starts] at isFirst
    cases isFirst
    exact notSpace
  obtain ⟨positionAfter, readAll⟩ :=
    readsBack document (2 * document.characters.length + 2) 0 []
      Delimited.nil (by omega)
  rw [List.append_nil] at readAll
  simp only [read, written, String.toList_ofList, noBlank, readAll, bind,
    Except.bind, skipSpace_delimited positionAfter .nil]
  rfl

/-- Documents with the same text are the same up to the order of members. -/
theorem sorted_eq_of_written_eq
    {document other : Json}
    (same : document.written = other.written) :
    document.sorted = other.sorted := by
  have ownRead := read_written document
  rw [same, read_written] at ownRead
  exact (Except.ok.inj ownRead).symm

end Tabular.Json
