import Tabular.Proofs.Analysis.Grouping
import Tabular.Proofs.Number.Nearness
import Tabular.Proofs.Table.Columns
import Tabular.Proofs.Table.Description

namespace Tabular

open List

/-!
# The dominant kind of a column

One pass over the counts of kinds keeps the best kind so far, and takes another one only if it has a
higher count that reaches the threshold. A higher count reaches what a lower one does, so the pass
finds the kind with the highest count of all, or none when that count is too low. Counts come in the
order of the first cells of the kinds, so the first of several kinds is found.
-/

/-! ## Counts in the order of first occurrences -/

theorem eraseDups_concat
    (kinds : List SmartKind)
    (kind : SmartKind) :
    (kinds ++ [kind]).eraseDups =
      if kind ∈ kinds then kinds.eraseDups else kinds.eraseDups ++ [kind] := by
  rw [eraseDups_append]
  by_cases member : kind ∈ kinds <;> simp [removeAll, member, eraseDups_cons]

/-- Every kind is counted once, where it is found first. -/
theorem countKinds_eq
    (kinds : List SmartKind) :
    countKinds kinds = kinds.eraseDups.map fun kind => (kind, kinds.count kind) := by
  induction kinds using reverseRecOn with
  | nil =>
      rfl
  | append_singleton kinds kind inductionHypothesis =>
      have counted :
          ((kinds.eraseDups.map fun kind => (kind, kinds.count kind)).any
            fun entry => entry.1 == kind) = decide (kind ∈ kinds) := by
        rw [any_map, Bool.eq_iff_iff, any_eq_true, decide_eq_true_iff]
        simp
      rw [countKinds, foldl_append, foldl_cons, foldl_nil, ← countKinds, inductionHypothesis,
        counted, eraseDups_concat]
      by_cases member : kind ∈ kinds
      · rw [if_pos (decide_eq_true member), if_pos member, map_map]
        refine map_congr_left fun other _ => ?_
        by_cases same : other = kind
        · subst same
          simp
        · simp [same, Ne.symm same]
      · rw [if_neg (by simpa using member), if_neg member, map_append]
        congr 1
        · refine map_congr_left fun other isOther => ?_
          have different : kind ≠ other := by
            rintro rfl
            exact member (mem_eraseDups.mp isOther)
          simp [different]
        · simp [count_eq_zero_of_not_mem member]

/-- Kinds come in the order of their first cells. -/
theorem eraseDups_filter_pairwise_idxOf
    (test : SmartKind → Bool)
    (kinds : List SmartKind) :
    (kinds.filter test).eraseDups.Pairwise fun left right =>
      kinds.idxOf left < kinds.idxOf right := by
  induction kinds using reverseRecOn with
  | nil =>
      exact .nil
  | append_singleton kinds kind inductionHypothesis =>
      have kept : (kinds.filter test).eraseDups.Pairwise fun left right =>
          (kinds ++ [kind]).idxOf left < (kinds ++ [kind]).idxOf right := by
        refine inductionHypothesis.imp_of_mem fun {left right} isLeft isRight before => ?_
        rw [idxOf_append_of_mem (mem_filter.mp (mem_eraseDups.mp isLeft)).1,
          idxOf_append_of_mem (mem_filter.mp (mem_eraseDups.mp isRight)).1]
        exact before
      rw [filter_append, filter_singleton]
      cases passes : test kind with
      | false =>
          simpa using kept
      | true =>
          rw [cond_true, eraseDups_concat]
          split
          · exact kept
          · next isNew =>
              refine pairwise_append.mpr ⟨kept, pairwise_singleton _ _, ?_⟩
              rintro left isLeft right isRight
              obtain rfl := mem_singleton.mp isRight
              have isLeft := (mem_filter.mp (mem_eraseDups.mp isLeft)).1
              have absent : right ∉ kinds :=
                fun member => isNew (mem_filter.mpr ⟨member, passes⟩)
              rw [idxOf_append_of_mem isLeft, idxOf_append_of_notMem absent]
              exact (idxOf_lt_length_of_mem isLeft).trans_le (Nat.le_add_right _ _)

/-! ## Counts that reach the threshold -/

/-- The amount is not above a count. -/
def Amount.IsAtMost (count : Nat) : Amount → Prop
  | .whole least => least ≤ count
  | .real least => least.le (.ofNat count) = true

/-- The count reaches the product of the total and the threshold, as it is computed. -/
def Reaches (threshold : Amount) (total count : Nat) : Prop :=
  ∃ least, (Amount.whole total).mul threshold = .ok least ∧ least.IsAtMost count

variable {threshold : Amount} {total count more : Nat}

theorem reaches_iff_of_reachesShare
    {reached : Bool}
    (answered : reachesShare threshold count total = .ok reached) :
    Reaches threshold total count ↔ reached = true := by
  obtain ⟨least, isLeast, answered⟩ := Outcome.bind_eq_ok_iff.mp answered
  have isReached : reached = true ↔ least.IsAtMost count := by
    cases least with
    | whole least =>
        cases answered
        exact decide_eq_true_iff
    | real least =>
        cases answered
        exact Iff.rfl
  rw [isReached]
  constructor
  · rintro ⟨leastToo, isLeastToo, isAtMost⟩
    rw [isLeast] at isLeastToo
    cases isLeastToo
    exact isAtMost
  · exact fun isAtMost => ⟨least, isLeast, isAtMost⟩

/-- A higher count of the total reaches what a lower one does. -/
theorem Reaches.mono
    (reaches : Reaches threshold total count)
    (ordered : count ≤ more)
    (within : more ≤ total) :
    Reaches threshold total more := by
  obtain ⟨least, isLeast, isAtMost⟩ := reaches
  refine ⟨least, isLeast, ?_⟩
  cases least with
  | whole least =>
      exact isAtMost.trans (Int.ofNat_le.mpr ordered)
  | real least =>
      cases threshold with
      | whole _ =>
          cases isLeast
      | real _ =>
          obtain ⟨number, isReal, -⟩ := Outcome.bind_eq_ok_iff.mp isLeast
          have inRange := (Binary64.eq_ofNat_of_realOfInt isReal).2
          exact Binary64.le_ofNat_mono ordered (within.trans_lt inRange) isAtMost

/-! ## The best of several counts -/

/-- The entry has the highest count, which the entries before it do not have. -/
def IsFirstBest (entry : SmartKind × Nat) (entries : List (SmartKind × Nat)) : Prop :=
  ∃ earlier later, entries = earlier ++ entry :: later ∧
    (∀ other ∈ earlier, other.2 < entry.2) ∧ ∀ other ∈ later, other.2 ≤ entry.2

/-- What the pass has found in the entries so far. -/
def IsDominant (threshold : Amount) (total : Nat) (entries : List (SmartKind × Nat)) :
    Option (SmartKind × Nat) → Prop
  | none => ∀ entry ∈ entries, ¬(0 < entry.2 ∧ Reaches threshold total entry.2)
  | some entry =>
      0 < entry.2 ∧ Reaches threshold total entry.2 ∧ IsFirstBest entry entries

section Step

variable {entries : List (SmartKind × Nat)} {best next : Option (SmartKind × Nat)}
  {entry : SmartKind × Nat}

/-- An entry that is not higher, or does not reach the threshold, makes no difference. -/
theorem IsDominant.passOver
    (isDominant : IsDominant threshold total entries best)
    (inTotal : entry.2 ≤ total)
    (lower : (best.map Prod.snd).getD 0 < entry.2 → ¬Reaches threshold total entry.2) :
    IsDominant threshold total (entries ++ [entry]) best := by
  cases best with
  | none =>
      intro other member
      rcases mem_append.mp member with earlier | isLast
      · exact isDominant other earlier
      · obtain rfl := mem_singleton.mp isLast
        exact fun both => lower both.1 both.2
  | some found =>
      obtain ⟨positive, reaches, earlier, later, rfl, before, after⟩ := isDominant
      refine ⟨positive, reaches, earlier, later ++ [entry], by simp, before, ?_⟩
      intro other member
      rcases mem_append.mp member with isLater | isLast
      · exact after other isLater
      · obtain rfl := mem_singleton.mp isLast
        by_contra higher
        rw [not_le] at higher
        exact lower higher (reaches.mono higher.le inTotal)

/-- An entry that is higher and reaches the threshold takes the place of the best one. -/
theorem IsDominant.replace
    (isDominant : IsDominant threshold total entries best)
    (within : ∀ other ∈ entries, other.2 ≤ total)
    (higher : (best.map Prod.snd).getD 0 < entry.2)
    (reaches : Reaches threshold total entry.2) :
    IsDominant threshold total (entries ++ [entry]) (some entry) := by
  refine ⟨Nat.zero_lt_of_lt higher, reaches, entries, [], rfl, ?_, nofun⟩
  intro other member
  cases best with
  | none =>
      by_contra notLower
      rw [not_lt] at notLower
      exact isDominant other member ⟨(Nat.zero_lt_of_lt higher).trans_le notLower,
        reaches.mono notLower (within other member)⟩
  | some found =>
      obtain ⟨-, -, earlier, later, rfl, before, after⟩ := isDominant
      have isHigher : found.2 < entry.2 := higher
      rcases mem_append.mp member with isEarlier | isRest
      · exact (before other isEarlier).trans isHigher
      · rcases mem_cons.mp isRest with rfl | isLater
        · exact isHigher
        · exact (after other isLater).trans_lt isHigher

/-- One more entry is the best one when its count is higher and reaches the threshold. -/
theorem IsDominant.concat
    (isDominant : IsDominant threshold total entries best)
    (within : ∀ other ∈ entries, other.2 ≤ total)
    (inTotal : entry.2 ≤ total)
    (stepped :
      (if (best.map Prod.snd).getD 0 < entry.2 then do
          if ← reachesShare threshold entry.2 total then .ok (some entry) else .ok best
        else .ok best : Outcome (Option (SmartKind × Nat))) =
      .ok next) :
    IsDominant threshold total (entries ++ [entry]) next := by
  split at stepped
  · next higher =>
      obtain ⟨reached, isReached, stepped⟩ := Outcome.bind_eq_ok_iff.mp stepped
      have reaches_iff := reaches_iff_of_reachesShare isReached
      cases reached with
      | false =>
          cases stepped
          exact isDominant.passOver inTotal fun _ reaches => absurd (reaches_iff.mp reaches) nofun
      | true =>
          cases stepped
          exact isDominant.replace within higher (reaches_iff.mpr rfl)
  · next notHigher =>
      cases stepped
      exact isDominant.passOver inTotal fun higher => absurd higher notHigher

end Step

/-- The pass over all entries finds the first of the highest ones, if it reaches the threshold. -/
theorem isDominant_of_dominantKind?
    {entries : List (SmartKind × Nat)}
    (within : ∀ entry ∈ entries, entry.2 ≤ total)
    {found : Option (SmartKind × Nat)}
    (answered : dominantKind? threshold total entries = .ok found) :
    IsDominant threshold total entries found := by
  induction entries using reverseRecOn generalizing found with
  | nil =>
      cases answered
      exact nofun
  | append_singleton entries entry inductionHypothesis =>
      rw [dominantKind?, foldlM_append] at answered
      obtain ⟨best, isBest, answered⟩ := Outcome.bind_eq_ok_iff.mp answered
      rw [foldlM_cons] at answered
      obtain ⟨next, stepped, isNext⟩ := Outcome.bind_eq_ok_iff.mp answered
      obtain rfl := Outcome.pure_eq_ok_iff.mp isNext
      have earlierWithin : ∀ other ∈ entries, other.2 ≤ total :=
        fun other member => within other (mem_append_left _ member)
      exact (inductionHypothesis earlierWithin isBest).concat earlierWithin
        (within entry (by simp)) stepped

/-! ## Kinds of cells -/

/-- The kinds of cells in their order; blank cells have none. -/
def kindsOf (cells : List Cell) : List SmartKind :=
  cells.map Cell.smartKind

/-- The number of cells that are not blank. -/
def filledCount (cells : List Cell) : Nat :=
  cells.countP fun cell => !cell.isBlank

theorem length_filled
    (cells : List Cell) :
    (cells.filter fun cell => !cell.isBlank).length = filledCount cells :=
  countP_eq_length_filter.symm

/-- The kind is that of most cells, and of several such kinds the one that is found first. -/
structure Leads (kind : SmartKind) (kinds : List SmartKind) : Prop where
  isFound : kind ∈ kinds
  most (other : SmartKind) (isKind : other ≠ .none) : kinds.count other ≤ kinds.count kind
  first (other : SmartKind) (isKind : other ≠ .none) (different : other ≠ kind)
    (asMany : kinds.count other = kinds.count kind) :
    kinds.idxOf kind < kinds.idxOf other

theorem smartKind_of_isBlank
    {cell : Cell}
    (blank : cell.isBlank = true) :
    cell.smartKind = .none := by
  rw [Cell.smartKind, if_pos blank]

/-- The kinds that are counted are those of all cells that have one. -/
theorem filter_map_filled
    (cells : List Cell) :
    ((cells.filter fun cell => !cell.isBlank).map Cell.smartKind).filter (· ≠ .none) =
      (kindsOf cells).filter (· ≠ .none) := by
  rw [kindsOf, filter_map, filter_map, filter_filter]
  congr 1
  refine filter_congr fun cell _ => ?_
  by_cases blank : cell.isBlank = true <;> simp [blank, smartKind_of_isBlank]

theorem count_filter_kinds
    {kind : SmartKind}
    (isKind : kind ≠ .none)
    (kinds : List SmartKind) :
    (kinds.filter (· ≠ .none)).count kind = kinds.count kind :=
  count_filter (by simpa using isKind)

theorem count_kindsOf_le
    {kind : SmartKind}
    (isKind : kind ≠ .none)
    (cells : List Cell) :
    (kindsOf cells).count kind ≤ filledCount cells := by
  rw [kindsOf, filledCount, count, countP_map]
  refine countP_mono_left fun cell _ isSame => ?_
  by_contra blank
  rw [Bool.not_eq_true', Bool.not_eq_false] at blank
  rw [Function.comp_apply, smartKind_of_isBlank blank, beq_iff_eq] at isSame
  exact isKind isSame.symm

/-- The best of the counts of kinds is that of the leading kind. -/
theorem leads_of_isFirstBest
    {kinds : List SmartKind}
    {kind : SmartKind}
    {count : Nat}
    (isBest : IsFirstBest (kind, count) (countKinds (kinds.filter (· ≠ .none)))) :
    kind ≠ .none ∧ count = kinds.count kind ∧ Leads kind kinds := by
  obtain ⟨earlier, later, parts, isLower, isNotHigher⟩ := isBest
  rw [countKinds_eq] at parts
  obtain ⟨before, rest, distinct, rfl, isRest⟩ := map_eq_append_iff.mp parts
  obtain ⟨own, after, rfl, isOwn, rfl⟩ := map_eq_cons_iff.mp isRest
  cases isOwn
  have mem_iff (other : SmartKind) :
      other ∈ before ++ kind :: after ↔ other ∈ kinds ∧ other ≠ .none := by
    rw [← distinct, mem_eraseDups, mem_filter, decide_eq_true_iff]
  obtain ⟨isFound, isKind⟩ := (mem_iff kind).mp (by simp)
  rw [forall_mem_map] at isLower isNotHigher
  have inOrder := eraseDups_filter_pairwise_idxOf (fun kind => decide (kind ≠ .none)) kinds
  rw [distinct] at inOrder
  have isLessOrLater (other : SmartKind) (isKindToo : other ≠ .none) :
      kinds.count other < kinds.count kind ∨ other = kind ∨
        kinds.count other ≤ kinds.count kind ∧ kinds.idxOf kind < kinds.idxOf other := by
    rw [← count_filter_kinds isKindToo kinds, ← count_filter_kinds isKind kinds]
    by_cases occurs : other ∈ kinds
    · rcases mem_append.mp ((mem_iff other).mpr ⟨occurs, isKindToo⟩) with isBefore | isRest
      · exact .inl (isLower other isBefore)
      · rcases mem_cons.mp isRest with rfl | isAfter
        · exact .inr (.inl rfl)
        · exact .inr (.inr ⟨isNotHigher other isAfter,
            (pairwise_cons.mp (pairwise_append.mp inOrder).2.1).1 other isAfter⟩)
    · rw [count_filter_kinds isKindToo, count_filter_kinds isKind,
        count_eq_zero_of_not_mem occurs]
      exact .inl (count_pos_iff.mpr isFound)
  refine ⟨isKind, count_filter_kinds isKind kinds, isFound, ?_, ?_⟩
  · intro other isKindToo
    rcases isLessOrLater other isKindToo with isLess | rfl | ⟨notMore, -⟩
    · exact isLess.le
    · exact le_rfl
    · exact notMore
  · intro other isKindToo different asMany
    rcases isLessOrLater other isKindToo with isLess | same | ⟨-, isFirst⟩
    · exact absurd asMany isLess.ne
    · exact absurd same different
    · exact isFirst

/-! ## What is reported of a column -/

/-- A column is described by its leading kind if enough of its cells have that, or not at all. -/
structure DescribesKinds (threshold : Amount) (cells : List Cell) (info : SmartTypeInfo) :
    Prop where
  isKind_iff :
    info.kind ≠ .none ↔
      ∃ kind ≠ .none, 0 < (kindsOf cells).count kind ∧
        Reaches threshold (filledCount cells) ((kindsOf cells).count kind)
  leads (isKind : info.kind ≠ .none) : Leads info.kind (kindsOf cells)
  validCount_eq (isKind : info.kind ≠ .none) :
    info.validCount = (kindsOf cells).count info.kind
  total_eq (isKind : info.kind ≠ .none) :
    info.validCount + info.invalidCount = filledCount cells
  otherwise (notKind : info.kind = .none) : info = {}

/-- The counts that the best kind is found among. -/
def countsOf (cells : List Cell) : List (SmartKind × Nat) :=
  countKinds ((kindsOf cells).filter (· ≠ .none))

theorem mem_countsOf_iff
    {cells : List Cell}
    {entry : SmartKind × Nat} :
    entry ∈ countsOf cells ↔
      entry.1 ∈ kindsOf cells ∧ entry.1 ≠ .none ∧ entry.2 = (kindsOf cells).count entry.1 := by
  rw [countsOf, countKinds_eq, mem_map]
  constructor
  · rintro ⟨kind, member, rfl⟩
    obtain ⟨isFound, isKind⟩ := mem_filter.mp (mem_eraseDups.mp member)
    rw [decide_eq_true_iff] at isKind
    exact ⟨isFound, isKind, count_filter_kinds isKind _⟩
  · rintro ⟨isFound, isKind, isCount⟩
    refine ⟨entry.1, mem_eraseDups.mpr (mem_filter.mpr ⟨isFound, decide_eq_true isKind⟩), ?_⟩
    rw [count_filter_kinds isKind, ← isCount]

/-- The kind of a column is that of the best count, with its share of the cells. -/
theorem smartTypeOf_eq
    (threshold : Amount)
    (cells : List Cell) :
    smartTypeOf threshold cells =
      dominantKind? threshold (filledCount cells) (countsOf cells) >>= fun found =>
        match found with
        | none => .ok {}
        | some (kind, valid) =>
            percentOf valid (filledCount cells) >>= fun validPercent =>
              .ok
                { kind
                  validCount := valid
                  invalidCount := (filledCount cells : Int) - valid
                  validPercent } := by
  rw [smartTypeOf]
  simp only [filter_map_filled, length_filled]
  rfl

theorem describesKinds_of_smartTypeOf
    {cells : List Cell}
    {info : SmartTypeInfo}
    (described : smartTypeOf threshold cells = .ok info) :
    DescribesKinds threshold cells info := by
  rw [smartTypeOf_eq] at described
  obtain ⟨found, isFound, described⟩ := Outcome.bind_eq_ok_iff.mp described
  have within : ∀ entry ∈ countsOf cells, entry.2 ≤ filledCount cells := by
    intro entry member
    obtain ⟨-, isKind, isCount⟩ := mem_countsOf_iff.mp member
    exact isCount ▸ count_kindsOf_le isKind cells
  have isDominant := isDominant_of_dominantKind? within isFound
  cases found with
  | none =>
      cases described
      refine ⟨iff_of_false (by simp) ?_, by simp, by simp, by simp, fun _ => rfl⟩
      rintro ⟨kind, isKind, positive, reaches⟩
      have member : (kind, (kindsOf cells).count kind) ∈ countsOf cells :=
        mem_countsOf_iff.mpr ⟨count_pos_iff.mp positive, isKind, rfl⟩
      exact isDominant _ member ⟨positive, reaches⟩
  | some entry =>
      obtain ⟨kind, valid⟩ := entry
      obtain ⟨positive, reaches, isBest⟩ := isDominant
      obtain ⟨isKind, rfl, leads⟩ := leads_of_isFirstBest isBest
      obtain ⟨percent, -, described⟩ := Outcome.bind_eq_ok_iff.mp described
      cases described
      exact
        { isKind_iff := iff_of_true isKind ⟨kind, isKind, positive, reaches⟩
          leads := fun _ => leads
          validCount_eq := fun _ => rfl
          total_eq := fun _ => by dsimp only; omega
          otherwise := fun notKind => absurd notKind isKind }

theorem describeColumns_eq_ok_iff
    {α : Type}
    {find : String → Outcome α}
    {columns : List String}
    (distinct : columns.Nodup)
    {answer : Assoc α} :
    describeColumns find columns = .ok answer ↔
      answer.keys = columns ∧
        ∀ column ∈ columns, ∃ value,
          find column = .ok value ∧ answer.find? column = some value :=
  Pivot.tabulate_eq_ok_iff distinct

/--
The kinds of the columns of rows can be detected, unless there are more rows than numbers. A column
has a kind exactly when some kind is that of enough of its cells that are not blank; it is the kind
of the most cells, and the first one of several. The report counts the cells of the kind, and the
other cells that are not blank.
-/
theorem detectSmartTypes_finds_leading
    (threshold : Amount)
    (rows : List Row) :
    (rows.length < Binary64.intLimit → ∃ infos, detectSmartTypes threshold rows = .ok infos) ∧
    ∀ infos, detectSmartTypes threshold rows = .ok infos →
      infos.keys = columnsOf rows ∧
        ∀ column ∈ columnsOf rows, ∃ info, infos.find? column = some info ∧
          DescribesKinds threshold (rows.map fun row => row.cell column) info := by
  constructor
  · intro inRange
    refine Outcome.exists_foldlM_of_forall (fun column _ found => ?_) Assoc.empty
    have cellsInRange : (rows.map fun row => row.cell column).length < Binary64.intLimit := by
      rwa [length_map]
    obtain ⟨info, isInfo⟩ := exists_smartTypeOf threshold cellsInRange
    exact ⟨found.insert column info, by beta_reduce; rw [isInfo]; rfl⟩
  · intro infos detected
    obtain ⟨areKeys, described⟩ := (describeColumns_eq_ok_iff (columnsOf_nodup rows)).mp detected
    refine ⟨areKeys, fun column isColumn => ?_⟩
    obtain ⟨info, isInfo, found⟩ := described column isColumn
    exact ⟨info, found, describesKinds_of_smartTypeOf isInfo⟩

namespace SmartKind.Sample

/-- Two addresses and two telephone numbers, of which an address comes first. -/
def entries : List Row :=
  ["a@b.co", "555-1234", " ", "c@d.org", "555-4321"].map fun text =>
    .ofList [("entry", .text text)]

/-- Both kinds reach a half of the four cells, and the addresses are reported. -/
theorem kinds_of_entries :
    entries.length < Binary64.intLimit ∧
      ∃ infos info, detectSmartTypes (.real (.ofRatio false 1 2)) entries = .ok infos ∧
        infos.find? "entry" = some info ∧ info.kind ≠ .none ∧
          Leads info.kind [.email, .phone, .none, .email, .phone] ∧
            info.validCount + info.invalidCount = 4 := by
  have inRange : entries.length < Binary64.intLimit := by
    decide +kernel
  have areKinds : kindsOf (entries.map fun row => row.cell "entry") =
      [.email, .phone, .none, .email, .phone] := by
    decide +kernel
  have areFilled : filledCount (entries.map fun row => row.cell "entry") = 4 := by
    decide +kernel
  obtain ⟨answers, describes⟩ :=
    detectSmartTypes_finds_leading (.real (.ofRatio false 1 2)) entries
  obtain ⟨infos, detected⟩ := answers inRange
  obtain ⟨-, found⟩ := describes infos detected
  obtain ⟨info, isFound, describesKinds⟩ := found "entry" (by decide)
  have isKind : info.kind ≠ .none := by
    rw [describesKinds.isKind_iff, areKinds, areFilled]
    have isAtMost : (Binary64.ofNat 2).le (.ofNat 2) = true := by
      decide +kernel
    exact ⟨.email, nofun, by decide, .real (.ofNat 2), by decide +kernel, isAtMost⟩
  have leads := describesKinds.leads isKind
  have total := describesKinds.total_eq isKind
  rw [areKinds] at leads
  rw [areFilled] at total
  exact ⟨inRange, infos, info, detected, isFound, isKind, leads, total⟩

end SmartKind.Sample

end Tabular
