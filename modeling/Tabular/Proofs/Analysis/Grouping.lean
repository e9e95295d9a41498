import Mathlib.Data.List.Sort
import Tabular.Analysis.Pivot
import Tabular.Proofs.Assoc
import Tabular.Proofs.Cache.History

namespace Tabular.Pivot

open List

/-!
# Keys, groups and maps of keys

The three parts a pivot is made of: keys in order, groups that are collected in one pass, and maps
that are filled key by key. Collecting groups and then asking for one of them is the same as walking
all entries for its two keys.
-/

/-! ## Keys in order -/

variable {key : String} {keys : List String}

theorem mem_sortedKeys :
    key ∈ sortedKeys keys ↔ key ∈ keys := by
  rw [sortedKeys, mem_mergeSort, mem_eraseDups]

/-- The keys ascend strictly, so no two of them are equal. -/
theorem sortedKeys_ascending (keys : List String) :
    (sortedKeys keys).Pairwise (· < ·) := by
  have inOrder (left right : String) : (!decide (right < left)) = true ↔ left ≤ right := by
    rw [Bool.not_eq_true', decide_eq_false_iff_not, String.not_lt]
  have weakly : (sortedKeys keys).Pairwise fun left right => left ≤ right := by
    rw [sortedKeys]
    refine (pairwise_mergeSort ?_ ?_ keys.eraseDups).imp (inOrder _ _).mp
    · intro first second third
      rw [inOrder, inOrder, inOrder]
      exact String.le_trans
    · intro left right
      rw [Bool.or_eq_true, inOrder, inOrder]
      exact String.le_total left right
  have distinct : (sortedKeys keys).Pairwise (· ≠ ·) := by
    rw [sortedKeys, (mergeSort_perm _ _).pairwise_iff Ne.symm]
    exact (CacheHistory.apart_eraseDups keys).imp beq_eq_false_iff_ne.mp
  refine (weakly.and distinct).imp ?_
  intro left right ordered
  exact Std.lt_of_le_of_ne ordered.1 ordered.2

theorem nodup_of_ascending
    (ascending : keys.Pairwise (· < ·)) :
    keys.Nodup := by
  refine ascending.imp ?_
  rintro left _ less rfl
  exact String.lt_irrefl left less

theorem nodup_sortedKeys (keys : List String) :
    (sortedKeys keys).Nodup :=
  nodup_of_ascending (sortedKeys_ascending keys)

/-- Ascending keys are told by which keys are among them. -/
theorem eq_sortedKeys_iff
    {found : List String} :
    found = sortedKeys keys ↔
      found.Pairwise (· < ·) ∧ ∀ key, key ∈ found ↔ key ∈ keys := by
  constructor
  · rintro rfl
    exact ⟨sortedKeys_ascending keys, fun key => mem_sortedKeys⟩
  · rintro ⟨ascending, sameMembers⟩
    apply Pairwise.eq_of_mem_iff ascending (sortedKeys_ascending keys)
    intro key
    rw [sameMembers, mem_sortedKeys]

/-! ## Groups -/

/-- The numbers of the group with two keys; none when there is no such group. -/
def collectedAt (row column : String) : List Group → List Binary64
  | [] => []
  | group :: rest =>
      if group.row = row ∧ group.column = column then group.values
      else collectedAt row column rest

/-- The numbers of the entries with two keys, in their order. -/
def numbersAt (row column : String) (entries : List Entry) : List Binary64 :=
  (entries.filter fun entry => entry.row = row ∧ entry.column = column).filterMap Entry.value

variable (row column : String)

/-- A number is added to the group of its own keys and to no other one. -/
theorem collectedAt_addTo
    (ownRow ownColumn : String)
    (value : Binary64)
    (groups : List Group) :
    collectedAt row column (addTo ownRow ownColumn value groups) =
      collectedAt row column groups ++
        if ownRow = row ∧ ownColumn = column then [value] else [] := by
  induction groups with
  | nil =>
      simp [addTo, collectedAt]
  | cons group rest inductionHypothesis =>
      by_cases own : group.row = ownRow ∧ group.column = ownColumn
      · obtain ⟨rfl, rfl⟩ := own
        by_cases asked : group.row = row ∧ group.column = column <;>
          simp [addTo, collectedAt, asked]
      · by_cases asked : group.row = row ∧ group.column = column
        · have otherKeys : ¬ (ownRow = row ∧ ownColumn = column) := by
            rintro ⟨rfl, rfl⟩
            exact own asked
          rw [addTo, if_neg own, collectedAt, collectedAt, if_pos asked, if_pos asked,
            if_neg otherKeys, append_nil]
        · simp only [addTo, if_neg own, collectedAt, if_neg asked, inductionHypothesis]

/-- One more entry is collected under its own keys, and only if it has a number. -/
theorem collectedAt_collect
    (groups : List Group)
    (entry : Entry) :
    collectedAt row column (collect groups entry) =
      collectedAt row column groups ++ numbersAt row column [entry] := by
  rw [collect]
  cases number : entry.value with
  | none =>
      by_cases asked : entry.row = row ∧ entry.column = column <;>
        simp [numbersAt, asked, number]
  | some value =>
      rw [collectedAt_addTo]
      by_cases asked : entry.row = row ∧ entry.column = column <;>
        simp [numbersAt, asked, number]

theorem collectedAt_foldl_collect
    (entries : List Entry)
    (groups : List Group) :
    collectedAt row column (entries.foldl collect groups) =
      collectedAt row column groups ++ numbersAt row column entries := by
  induction entries generalizing groups with
  | nil =>
      simp [numbersAt]
  | cons entry rest inductionHypothesis =>
      rw [foldl_cons, inductionHypothesis, collectedAt_collect, append_assoc]
      congr 1
      rw [numbersAt, numbersAt, numbersAt, ← filterMap_append, ← filter_append, singleton_append]

/-- A group holds the numbers of all entries with its keys, in their order. -/
theorem collectedAt_groupBy
    (entries : List Entry) :
    collectedAt row column (groupBy entries) = numbersAt row column entries :=
  collectedAt_foldl_collect row column entries []

/-! ## Aggregates of groups -/

theorem addTo_nonempty
    (value : Binary64)
    {groups : List Group}
    (nonempty : ∀ group ∈ groups, group.values ≠ []) :
    ∀ group ∈ addTo row column value groups, group.values ≠ [] := by
  induction groups with
  | nil =>
      simp [addTo]
  | cons first rest inductionHypothesis =>
      rw [forall_mem_cons] at nonempty
      rw [addTo]
      split_ifs with own
      · exact forall_mem_cons.mpr ⟨by simp, nonempty.2⟩
      · exact forall_mem_cons.mpr ⟨nonempty.1, inductionHypothesis nonempty.2⟩

/-- There is no group without a number. -/
theorem groupBy_nonempty
    (entries : List Entry) :
    ∀ group ∈ groupBy entries, group.values ≠ [] := by
  have collected (groups : List Group) (nonempty : ∀ group ∈ groups, group.values ≠ []) :
      ∀ group ∈ entries.foldl collect groups, group.values ≠ [] := by
    induction entries generalizing groups with
    | nil =>
        exact nonempty
    | cons entry rest inductionHypothesis =>
        apply inductionHypothesis
        rw [collect]
        split
        · exact addTo_nonempty entry.row entry.column _ nonempty
        · exact nonempty
  exact collected [] (by simp)

/-- The aggregate of a list of numbers, zero when there are none. -/
def aggregateOf (aggregate : List Binary64 → Binary64) (numbers : List Binary64) : Binary64 :=
  if numbers = [] then Binary64.zero false else aggregate numbers

theorem aggregateAt_aggregates
    (aggregate : List Binary64 → Binary64)
    {groups : List Group}
    (nonempty : ∀ group ∈ groups, group.values ≠ []) :
    aggregateAt (aggregates aggregate groups) row column =
      aggregateOf aggregate (collectedAt row column groups) := by
  rw [aggregateAt, aggregates]
  induction groups with
  | nil =>
      simp [collectedAt, aggregateOf]
  | cons first rest inductionHypothesis =>
      rw [forall_mem_cons] at nonempty
      rw [map_cons, lookup_cons, collectedAt]
      by_cases asked : first.row = row ∧ first.column = column
      · obtain ⟨rfl, rfl⟩ := asked
        simp [aggregateOf, nonempty.1]
      · have otherKeys : ((row, column) == (first.row, first.column)) = false := by
          rw [beq_eq_false_iff_ne, ne_eq, Prod.mk.injEq]
          rintro ⟨rfl, rfl⟩
          exact asked ⟨rfl, rfl⟩
        rw [if_neg asked, otherKeys]
        exact inductionHypothesis nonempty.2

/-- The aggregate found for two keys is that of the numbers of all entries with these keys. -/
theorem aggregateAt_groupBy
    (aggregate : List Binary64 → Binary64)
    (entries : List Entry) :
    aggregateAt (aggregates aggregate (groupBy entries)) row column =
      aggregateOf aggregate (numbersAt row column entries) := by
  rw [aggregateAt_aggregates row column aggregate (groupBy_nonempty entries),
    collectedAt_groupBy]

/-! ## Maps of keys -/

variable {α : Type} {find : String → Outcome α} {map : Assoc α}

/-- Keys that are new to a map are appended to it in turn, each with what is found for it. -/
theorem foldlM_insert_eq_ok_iff
    (start : Assoc α)
    (distinct : (start.keys ++ keys).Nodup) :
    keys.foldlM (fun built key => (find key).map (built.insert key)) start = .ok map ↔
      ∃ added : List (String × α),
        map.entries = start.entries ++ added ∧
          added.map Prod.fst = keys ∧
            ∀ entry ∈ added, find entry.1 = .ok entry.2 := by
  induction keys generalizing start with
  | nil =>
      rw [foldlM_nil, Outcome.pure_eq_ok_iff]
      constructor
      · rintro rfl
        exact ⟨[], by simp⟩
      · rintro ⟨added, parts, noKeys, -⟩
        obtain rfl := map_eq_nil_iff.mp noKeys
        exact Assoc.ext_entries (by simpa using parts.symm)
  | cons key rest inductionHypothesis =>
      have absent : key ∉ start.entries.map Prod.fst := by
        intro member
        exact (nodup_append.mp distinct).2.2 key member key (by simp) rfl
      have stored (value : α) :
          (start.insert key value).entries = start.entries ++ [(key, value)] :=
        Assoc.storeEntry_of_not_mem absent
      have restDistinct (value : α) : ((start.insert key value).keys ++ rest).Nodup := by
        simpa [Assoc.keys, stored] using distinct
      rw [foldlM_cons, Outcome.bind_eq_ok_iff]
      constructor
      · rintro ⟨next, isNext, isMap⟩
        cases found : find key with
        | error fault =>
            rw [found] at isNext
            cases isNext
        | ok value =>
            rw [found] at isNext
            cases isNext
            obtain ⟨added, parts, addedKeys, allFound⟩ :=
              (inductionHypothesis _ (restDistinct value)).mp isMap
            refine ⟨(key, value) :: added, ?_, by simp [addedKeys], ?_⟩
            · rw [parts, stored, append_assoc, singleton_append]
            · exact forall_mem_cons.mpr ⟨found, allFound⟩
      · rintro ⟨added, parts, addedKeys, allFound⟩
        obtain ⟨⟨own, value⟩, others, rfl, rfl, othersKeys⟩ := map_eq_cons_iff.mp addedKeys
        rw [forall_mem_cons] at allFound
        refine ⟨start.insert own value, by rw [allFound.1]; rfl, ?_⟩
        refine (inductionHypothesis _ (restDistinct value)).mpr ⟨others, ?_, othersKeys, allFound.2⟩
        rw [parts, stored, append_assoc, singleton_append]

/-- A map of keys has exactly these keys, in their order, and under each of them what is found. -/
theorem tabulate_eq_ok_iff
    (distinct : keys.Nodup) :
    tabulate find keys = .ok map ↔
      map.keys = keys ∧
        ∀ key ∈ keys, ∃ value, find key = .ok value ∧ map.find? key = some value := by
  rw [tabulate, foldlM_insert_eq_ok_iff .empty (by simpa [Assoc.keys, Assoc.empty] using distinct)]
  constructor
  · rintro ⟨added, parts, rfl, allFound⟩
    obtain rfl : map.entries = added := by simpa [Assoc.empty] using parts
    refine ⟨rfl, fun key isKey => ?_⟩
    obtain ⟨⟨own, value⟩, member, rfl⟩ := mem_map.mp isKey
    exact ⟨value, allFound _ member, Assoc.find?_eq_some_iff.mpr member⟩
  · rintro ⟨rfl, allFound⟩
    refine ⟨map.entries, by simp [Assoc.empty], rfl, fun entry member => ?_⟩
    obtain ⟨value, found, present⟩ := allFound entry.1 (mem_map_of_mem member)
    have stored : map.find? entry.1 = some entry.2 := Assoc.find?_eq_some_iff.mpr member
    rw [stored, Option.some.injEq] at present
    rw [found, present]

end Tabular.Pivot
