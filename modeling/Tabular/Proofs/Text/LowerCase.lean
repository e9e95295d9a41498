import Mathlib.Data.List.Infix
import Tabular.Text.Blank
import Tabular.Text.Case

namespace Tabular.Text

/-!
# Lower case inside of longer texts

Texts go into lower case character by character, apart from the capital sigma, whose form depends on
the letters around it. So a text that stands inside of a longer one has its own lower-case form
there, unless it has a sigma that turns: one that begins it and ends a word only because of what
stands before, or one that ends a word in the text by itself but not in the longer one.

Characters that the sigma rule looks past do not count in this: the rule sees the next one.
-/

/-- The needle stands somewhere in the characters exactly when it is a part of them. -/
theorem occursIn_iff_isInfix
    {needle characters : List Char} :
    occursIn needle characters = true ↔ needle <:+: characters := by
  induction characters with
  | nil =>
      rw [occursIn, List.isEmpty_iff, List.infix_nil]
  | cons character rest inductionHypothesis =>
      rw [occursIn, Bool.or_eq_true, List.isPrefixOf_iff_prefix, inductionHypothesis,
        List.infix_cons_iff]

/-! ## What the sigma rule sees -/

/-- After the character, the last one that the sigma rule sees is a cased letter. -/
def isCasedAfter (afterCased : Bool) (character : Char) : Bool :=
  if isCaseIgnorable character then afterCased else isCased character

/-- The last character that the sigma rule sees is a cased letter, or else the one before them. -/
def endsCasedFrom (afterCased : Bool) : List Char → Bool
  | [] => afterCased
  | character :: rest => endsCasedFrom (isCasedAfter afterCased character) rest

/-- The last character that the sigma rule sees is a cased letter. -/
abbrev endsCased (characters : List Char) : Bool :=
  endsCasedFrom false characters

/-- The sigma rule looks past all of the characters. -/
abbrev AreIgnorable (characters : List Char) : Prop :=
  ∀ character ∈ characters, isCaseIgnorable character = true

theorem isCaseIgnorable_sigma :
    isCaseIgnorable 'Σ' = false := by
  decide +kernel

theorem isCased_sigma :
    isCased 'Σ' = true := by
  decide +kernel

theorem isCasedAfter_sigma
    (afterCased : Bool) :
    isCasedAfter afterCased 'Σ' = true := by
  simp [isCasedAfter, isCaseIgnorable_sigma, isCased_sigma]

/-- Characters that are looked past show what comes after them. -/
theorem startsCased_append_of_areIgnorable
    {characters rest : List Char}
    (areIgnorable : AreIgnorable characters) :
    startsCased (characters ++ rest) = startsCased rest := by
  rw [startsCased, startsCased, List.dropWhile_append_of_pos areIgnorable]

/-- A character that is seen hides what comes after it. -/
theorem startsCased_append_of_not_areIgnorable
    {characters : List Char}
    (someIsSeen : ¬AreIgnorable characters)
    (rest : List Char) :
    startsCased (characters ++ rest) = startsCased characters := by
  induction characters with
  | nil =>
      exact absurd nofun someIsSeen
  | cons character others inductionHypothesis =>
      cases ignorable : isCaseIgnorable character with
      | false =>
          simp [startsCased, ignorable]
      | true =>
          have othersAreSeen : ¬AreIgnorable others := by
            intro areIgnorable
            exact someIsSeen (List.forall_mem_cons.mpr ⟨ignorable, areIgnorable⟩)
          simpa [startsCased, ignorable] using inductionHypothesis othersAreSeen

/-! ## Lower case before further characters -/

/-- The lower-case form of a character between a letter, or none, and further characters. -/
def lowerBetween (afterCased : Bool) (character : Char) (rest : List Char) : List Char :=
  if character = 'Σ' then if afterCased && !startsCased rest then ['ς'] else ['σ']
  else lowerCharacter character

/-- The lower-case form of characters that further ones follow. -/
def lowerBefore (after : List Char) (afterCased : Bool) : List Char → List Char
  | [] => []
  | character :: rest =>
      lowerBetween afterCased character (rest ++ after) ++
        lowerBefore after (isCasedAfter afterCased character) rest

theorem lowerFrom_append
    (afterCased : Bool)
    (first second : List Char) :
    lowerFrom afterCased (first ++ second) =
      lowerBefore second afterCased first ++
        lowerFrom (endsCasedFrom afterCased first) second := by
  induction first generalizing afterCased with
  | nil =>
      rfl
  | cons character rest inductionHypothesis =>
      rw [List.cons_append, lowerFrom, lowerBefore, endsCasedFrom, List.append_assoc,
        ← inductionHypothesis]
      rfl

theorem lowerBefore_nil
    (afterCased : Bool)
    (characters : List Char) :
    lowerBefore [] afterCased characters = lowerFrom afterCased characters := by
  simpa [lowerFrom] using (lowerFrom_append afterCased characters []).symm

/-- A character has as many characters in lower case wherever it stands. -/
theorem length_lowerBetween
    (afterCased : Bool)
    (character : Char)
    (rest : List Char) :
    (lowerBetween afterCased character rest).length = (lowerCharacter character).length := by
  rw [lowerBetween]
  split
  · next isSigma =>
      rw [isSigma]
      split <;> rfl
  · rfl

theorem length_lowerBefore
    (after : List Char)
    (afterCased : Bool)
    (characters : List Char) :
    (lowerBefore after afterCased characters).length =
      (characters.flatMap lowerCharacter).length := by
  induction characters generalizing afterCased with
  | nil =>
      rfl
  | cons character rest inductionHypothesis =>
      rw [lowerBefore, List.length_append, length_lowerBetween, inductionHypothesis,
        List.flatMap_cons, List.length_append]

theorem length_lowerFrom
    (afterCased : Bool)
    (characters : List Char) :
    (lowerFrom afterCased characters).length = (characters.flatMap lowerCharacter).length := by
  rw [← lowerBefore_nil, length_lowerBefore]

/-! ## Sigmas that turn -/

/-- The first character that is seen is a sigma, and no cased letter comes after it. -/
def OpensWithFinalSigma (characters rest : List Char) : Prop :=
  ∃ skipped others, characters = skipped ++ 'Σ' :: others ∧ AreIgnorable skipped ∧
    startsCased (others ++ rest) = false

/-- The last character that is seen is a sigma, and a cased letter comes before it. -/
def ClosesWithFinalSigma (afterCased : Bool) (characters : List Char) : Prop :=
  ∃ word skipped, characters = word ++ 'Σ' :: skipped ∧ endsCasedFrom afterCased word = true ∧
    AreIgnorable skipped

/--
A sigma of the text has another form between the two others than by itself: what comes before makes
it the end of a word, or what comes after makes the word go on.
-/
def SigmaTurns (before characters after : List Char) : Prop :=
  endsCased before = true ∧ OpensWithFinalSigma characters after ∨
    startsCased after = true ∧ ClosesWithFinalSigma false characters

theorem opensWithFinalSigma_cons_iff_of_ignorable
    {character : Char}
    {others rest : List Char}
    (ignorable : isCaseIgnorable character = true) :
    OpensWithFinalSigma (character :: others) rest ↔ OpensWithFinalSigma others rest := by
  constructor
  · rintro ⟨_ | ⟨first, skipped⟩, behind, same, areIgnorable, noneFollows⟩
    · obtain ⟨rfl, -⟩ := List.cons.inj same
      rw [isCaseIgnorable_sigma] at ignorable
      cases ignorable
    · obtain ⟨rfl, rfl⟩ := List.cons.inj same
      exact ⟨skipped, behind, rfl, (List.forall_mem_cons.mp areIgnorable).2, noneFollows⟩
  · rintro ⟨skipped, behind, rfl, areIgnorable, noneFollows⟩
    exact
      ⟨character :: skipped, behind, rfl, List.forall_mem_cons.mpr ⟨ignorable, areIgnorable⟩,
        noneFollows⟩

/-- A character that is seen opens the text. -/
theorem opensWithFinalSigma_cons_iff_of_seen
    {character : Char}
    {others rest : List Char}
    (seen : isCaseIgnorable character = false) :
    OpensWithFinalSigma (character :: others) rest ↔
      character = 'Σ' ∧ startsCased (others ++ rest) = false := by
  constructor
  · rintro ⟨_ | ⟨first, skipped⟩, behind, same, areIgnorable, noneFollows⟩
    · obtain ⟨rfl, rfl⟩ := List.cons.inj same
      exact ⟨rfl, noneFollows⟩
    · obtain ⟨rfl, -⟩ := List.cons.inj same
      rw [(List.forall_mem_cons.mp areIgnorable).1] at seen
      cases seen
  · rintro ⟨rfl, noneFollows⟩
    exact ⟨[], others, rfl, nofun, noneFollows⟩

theorem not_closesWithFinalSigma_nil
    {afterCased : Bool} :
    ¬ClosesWithFinalSigma afterCased [] := by
  rintro ⟨word, skipped, same, -⟩
  simp at same

theorem closesWithFinalSigma_cons_iff
    {afterCased : Bool}
    {character : Char}
    {others : List Char} :
    ClosesWithFinalSigma afterCased (character :: others) ↔
      character = 'Σ' ∧ afterCased = true ∧ AreIgnorable others ∨
        ClosesWithFinalSigma (isCasedAfter afterCased character) others := by
  constructor
  · rintro ⟨_ | ⟨first, word⟩, skipped, same, letterBefore, areIgnorable⟩
    · obtain ⟨rfl, rfl⟩ := List.cons.inj same
      exact .inl ⟨rfl, letterBefore, areIgnorable⟩
    · obtain ⟨rfl, rfl⟩ := List.cons.inj same
      exact .inr ⟨word, skipped, rfl, letterBefore, areIgnorable⟩
  · rintro (⟨rfl, letterBefore, areIgnorable⟩ | ⟨word, skipped, rfl, letterBefore, areIgnorable⟩)
    · exact ⟨[], others, rfl, letterBefore, areIgnorable⟩
    · exact ⟨character :: word, skipped, rfl, letterBefore, areIgnorable⟩

/-! ## When the form stays -/

/-- The forms of a character by two rules agree, and so do those of the others. -/
theorem lowerBefore_cons_eq_iff
    {after afterToo rest : List Char}
    {afterCased afterCasedToo : Bool}
    {character : Char} :
    lowerBefore after afterCased (character :: rest) =
        lowerBefore afterToo afterCasedToo (character :: rest) ↔
      lowerBetween afterCased character (rest ++ after) =
          lowerBetween afterCasedToo character (rest ++ afterToo) ∧
        lowerBefore after (isCasedAfter afterCased character) rest =
          lowerBefore afterToo (isCasedAfter afterCasedToo character) rest := by
  rw [lowerBefore, lowerBefore]
  constructor
  · intro same
    exact List.append_inj same (by rw [length_lowerBetween, length_lowerBetween])
  · rintro ⟨sameFirst, sameRest⟩
    rw [sameFirst, sameRest]

theorem lowerBetween_of_ne
    {afterCased : Bool}
    {character : Char}
    {rest : List Char}
    (other : character ≠ 'Σ') :
    lowerBetween afterCased character rest = lowerCharacter character :=
  if_neg other

/-- A capital sigma ends a word exactly after a cased letter and before none. -/
theorem lowerBetween_sigma
    (afterCased : Bool)
    (rest : List Char) :
    lowerBetween afterCased 'Σ' rest =
      if afterCased = true ∧ startsCased rest = false then ['ς'] else ['σ'] := by
  rw [lowerBetween, if_pos rfl]
  simp only [Bool.and_eq_true, Bool.not_eq_true']

theorem lowerBetween_sigma_eq_iff
    {afterCased afterCasedToo : Bool}
    {rest restToo : List Char} :
    lowerBetween afterCased 'Σ' rest = lowerBetween afterCasedToo 'Σ' restToo ↔
      ((afterCased = true ∧ startsCased rest = false) ↔
        (afterCasedToo = true ∧ startsCased restToo = false)) := by
  rw [lowerBetween_sigma, lowerBetween_sigma]
  by_cases isFinal : afterCased = true ∧ startsCased rest = false <;>
    by_cases isFinalToo : afterCasedToo = true ∧ startsCased restToo = false <;>
      simp [isFinal, isFinalToo]

/-- What follows the characters changes their form exactly when it goes on with a final sigma. -/
theorem lowerBefore_eq_iff
    {after : List Char}
    {afterCased : Bool}
    {characters : List Char} :
    lowerBefore after afterCased characters = lowerBefore [] afterCased characters ↔
      ¬(startsCased after = true ∧ ClosesWithFinalSigma afterCased characters) := by
  induction characters generalizing afterCased with
  | nil =>
      simp [lowerBefore, not_closesWithFinalSigma_nil]
  | cons character rest inductionHypothesis =>
      rw [lowerBefore_cons_eq_iff, inductionHypothesis, closesWithFinalSigma_cons_iff]
      by_cases isSigma : character = 'Σ'
      · subst isSigma
        rw [lowerBetween_sigma_eq_iff]
        by_cases areIgnorable : AreIgnorable rest
        · have noneInRest : startsCased (rest ++ []) = false :=
            startsCased_append_of_areIgnorable areIgnorable
          rw [noneInRest, startsCased_append_of_areIgnorable areIgnorable]
          cases startsCased after <;> cases afterCased <;> simp +contextual [areIgnorable]
        · rw [startsCased_append_of_not_areIgnorable areIgnorable, List.append_nil]
          simp [areIgnorable]
      · simp [lowerBetween_of_ne isSigma, isSigma]

/-- What stands around the characters changes their form exactly when it turns a sigma. -/
theorem lowerBefore_eq_lowerFrom_iff
    {before after characters : List Char} :
    lowerBefore after (endsCased before) characters = lowerFrom false characters ↔
      ¬SigmaTurns before characters after := by
  rw [← lowerBefore_nil, SigmaTurns]
  generalize endsCased before = afterCased
  induction characters with
  | nil =>
      simp [lowerBefore, not_closesWithFinalSigma_nil, OpensWithFinalSigma]
  | cons character rest inductionHypothesis =>
      rw [lowerBefore_cons_eq_iff, closesWithFinalSigma_cons_iff]
      cases seen : isCaseIgnorable character with
      | true =>
          have other : character ≠ 'Σ' := by
            rintro rfl
            rw [isCaseIgnorable_sigma] at seen
            cases seen
          rw [opensWithFinalSigma_cons_iff_of_ignorable seen]
          simp [isCasedAfter, seen, lowerBetween_of_ne other, other, inductionHypothesis]
      | false =>
          rw [opensWithFinalSigma_cons_iff_of_seen seen]
          by_cases isSigma : character = 'Σ'
          · subst isSigma
            rw [isCasedAfter_sigma, isCasedAfter_sigma, lowerBefore_eq_iff,
              lowerBetween_sigma_eq_iff]
            simp [not_or]
          · simp [isCasedAfter, seen, lowerBetween_of_ne isSigma, isSigma, lowerBefore_eq_iff]

/--
A text inside of a longer one has its own lower-case form at its place there, unless a sigma turns.
-/
theorem lowerFrom_at_place_iff
    {before characters after : List Char} :
    ((lowerFrom false (before ++ (characters ++ after))).drop
          (lowerFrom false before).length).take (lowerFrom false characters).length =
        lowerFrom false characters ↔
      ¬SigmaTurns before characters after := by
  have beforeLength :
      (lowerFrom false before).length =
        (lowerBefore (characters ++ after) false before).length := by
    rw [length_lowerFrom, length_lowerBefore]
  have ownLength :
      (lowerFrom false characters).length =
        (lowerBefore after (endsCased before) characters).length := by
    rw [length_lowerFrom, length_lowerBefore]
  rw [lowerFrom_append, lowerFrom_append, beforeLength, List.drop_left, ownLength, List.take_left,
    lowerBefore_eq_lowerFrom_iff]

/-- The needle stands somewhere in the characters with its sigmas as they are. -/
def StandsUnturned (needle characters : List Char) : Prop :=
  ∃ before after, characters = before ++ (needle ++ after) ∧ ¬SigmaTurns before needle after

/-- In lower case the needle stands at a place of the characters where it does not stand itself. -/
def StandsElsewhere (needle characters : List Char) : Prop :=
  ∃ before after,
    lowerFrom false characters = before ++ (lowerFrom false needle ++ after) ∧
      ∀ front back, characters = front ++ (needle ++ back) →
        (lowerFrom false front).length ≠ before.length

/--
In lower case a needle stands in characters where it stands itself and no sigma of it turns, and
possibly at places where it does not stand itself.
-/
theorem lowerFrom_isInfix_iff
    {needle characters : List Char} :
    lowerFrom false needle <:+: lowerFrom false characters ↔
      StandsUnturned needle characters ∨ StandsElsewhere needle characters := by
  constructor
  · rintro ⟨before, after, split⟩
    by_cases elsewhere : StandsElsewhere needle characters
    · exact .inr elsewhere
    · left
      rw [List.append_assoc] at split
      simp only [StandsElsewhere, not_exists, not_and, not_forall, not_not] at elsewhere
      obtain ⟨front, back, rfl, samePlace⟩ := elsewhere before after split.symm
      refine ⟨front, back, rfl, ?_⟩
      rw [← lowerFrom_at_place_iff, ← split, samePlace, List.drop_left, List.take_left]
  · rintro (⟨before, after, rfl, stays⟩ | ⟨before, after, split, -⟩)
    · rw [← lowerFrom_at_place_iff.mpr stays]
      exact (List.take_prefix _ _).isInfix.trans (List.drop_suffix _ _).isInfix
    · exact ⟨before, after, by rw [split, List.append_assoc]⟩

/-- A beginning stays one in lower case exactly when its sigmas stay as they are. -/
theorem lowerFrom_isPrefix_iff
    {characters after : List Char} :
    lowerFrom false characters <+: lowerFrom false (characters ++ after) ↔
      ¬SigmaTurns [] characters after := by
  rw [← lowerFrom_at_place_iff, List.prefix_iff_eq_take, eq_comm]
  rfl

/-- An end stays one in lower case exactly when its sigmas stay as they are. -/
theorem lowerFrom_isSuffix_iff
    {before characters : List Char} :
    lowerFrom false characters <:+ lowerFrom false (before ++ characters) ↔
      ¬SigmaTurns before characters [] := by
  have wholeLength :
      (lowerFrom false (before ++ characters)).length =
        (lowerFrom false before).length + (lowerFrom false characters).length := by
    rw [length_lowerFrom, length_lowerFrom, length_lowerFrom, List.flatMap_append,
      List.length_append]
  have restLength :
      ((lowerFrom false (before ++ characters)).drop (lowerFrom false before).length).length =
        (lowerFrom false characters).length := by
    rw [List.length_drop, wholeLength, Nat.add_sub_cancel_left]
  rw [← lowerFrom_at_place_iff, List.suffix_iff_eq_drop, eq_comm, List.append_nil, wholeLength,
    Nat.add_sub_cancel, List.take_of_length_le restLength.le]

end Tabular.Text
