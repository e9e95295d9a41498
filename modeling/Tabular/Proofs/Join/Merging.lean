import Tabular.Proofs.Join.Survival

namespace Tabular.Join

/-!
# The merged descriptions of a join

A joined table is described by the descriptions of its tables, each column under its prefixed name.
As long as no other table has a column of the same prefixed name, a column is described in the
joined table as it is in its own.
-/

variable {α : Type}

/-- Entries that are stored under other keys make no difference to a key. -/
theorem find?_foldl_insert_of_ne
    {image : String → String}
    {key : String}
    {entries : List (String × α)}
    (others : ∀ entry ∈ entries, image entry.1 ≠ key)
    (described : Assoc α) :
    (entries.foldl (fun built entry => built.insert (image entry.1) entry.2) described).find? key =
      described.find? key := by
  induction entries generalizing described with
  | nil =>
      rfl
  | cons entry rest inductionHypothesis =>
      rw [List.foldl_cons, inductionHypothesis fun other member =>
        others other (List.mem_cons_of_mem entry member)]
      rw [Assoc.find?_insert, if_neg (others entry List.mem_cons_self)]

/-- What is stored under the images of distinct keys is found there. -/
theorem find?_foldl_insert_of_mem
    {image : String → String}
    (injective : Function.Injective image)
    {entries : List (String × α)}
    (distinct : (entries.map Prod.fst).Nodup)
    {column : String}
    {value : α}
    (member : (column, value) ∈ entries)
    (described : Assoc α) :
    (entries.foldl (fun built entry => built.insert (image entry.1) entry.2) described).find?
        (image column) =
      some value := by
  induction entries generalizing described with
  | nil =>
      exact absurd member List.not_mem_nil
  | cons entry rest inductionHypothesis =>
      rw [List.map_cons, List.nodup_cons] at distinct
      rw [List.foldl_cons]
      rcases List.mem_cons.mp member with rfl | later
      · rw [find?_foldl_insert_of_ne, Assoc.find?_insert, if_pos rfl]
        intro other among sameImage
        exact distinct.1 (List.mem_map.mpr ⟨other, among, injective sameImage⟩)
      · exact inductionHypothesis distinct.2 later _

/--
A column of a named table is described as in the table, when no other named table describes a column
of the same prefixed name.
-/
theorem Sources.find?_describe
    {sources : Sources}
    {find : String → Table → Outcome (Assoc α)}
    {names : List String}
    {merged : Assoc α}
    (described : sources.describe find names = .ok merged)
    {name column : String}
    {table : Table}
    {map : Assoc α}
    (named : name ∈ names)
    (loaded : sources.tables.find? name = some table)
    (found : find name table = .ok map)
    (isColumn : column ∈ map.keys)
    (apart : ∀ other ∈ names, other ≠ name → ∀ otherTable otherMap,
      sources.tables.find? other = some otherTable → find other otherTable = .ok otherMap →
        ∀ otherColumn ∈ otherMap.keys,
          sources.column other otherColumn ≠ sources.column name column) :
    merged.find? (sources.column name column) = map.find? column := by
  obtain ⟨value, isValue⟩ := Assoc.mem_keys_iff.mp isColumn
  rw [isValue]
  unfold describe at described
  have comesOrIsDescribed : name ∈ names ∨
      (Assoc.empty : Assoc α).find? (sources.column name column) = some value :=
    .inl named
  clear named
  generalize (Assoc.empty : Assoc α) = initial at described comesOrIsDescribed
  induction names generalizing initial with
  | nil =>
      rw [← Outcome.pure_eq_ok_iff.mp described]
      exact comesOrIsDescribed.resolve_left List.not_mem_nil
  | cons present rest inductionHypothesis =>
      rw [List.foldlM_cons] at described
      obtain ⟨next, isNext, described⟩ := Outcome.bind_eq_ok_iff.mp described
      refine inductionHypothesis
        (fun other member => apart other (List.mem_cons_of_mem present member)) next described ?_
      by_cases same : present = name
      · subst same
        rw [loaded] at isNext
        obtain ⟨presentMap, isFound, isNext⟩ := Outcome.bind_eq_ok_iff.mp isNext
        obtain rfl : map = presentMap := Except.ok.inj (found.symm.trans isFound)
        rw [← Outcome.pure_eq_ok_iff.mp isNext]
        exact .inr
          (find?_foldl_insert_of_mem (columnName_injective _) map.distinct
            (Assoc.find?_eq_some_iff.mp isValue) initial)
      · refine comesOrIsDescribed.imp
          (fun member => (List.mem_cons.mp member).resolve_left (Ne.symm same))
          fun earlier => ?_
        cases presentLoaded : sources.tables.find? present with
        | none =>
            rw [presentLoaded] at isNext
            rw [← Outcome.pure_eq_ok_iff.mp isNext, earlier]
        | some presentTable =>
            rw [presentLoaded] at isNext
            obtain ⟨presentMap, isFound, isNext⟩ := Outcome.bind_eq_ok_iff.mp isNext
            rw [← Outcome.pure_eq_ok_iff.mp isNext, find?_foldl_insert_of_ne, earlier]
            intro entry member
            exact apart present List.mem_cons_self same presentTable presentMap presentLoaded
              isFound entry.1 (List.mem_map_of_mem member)

end Tabular.Join
