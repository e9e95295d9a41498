import Tabular.Assoc

namespace Tabular.Assoc

open List

variable {α β : Type}

/-!
# Looking up in ordered maps

What each operation on an ordered map does to its keys, its entries and its look-ups. Two maps whose
entries are the same up to order answer every look-up alike, since the keys of a map are distinct.
-/

theorem ext_entries
    {left right : Assoc α}
    (same : left.entries = right.entries) :
    left = right := by
  cases left
  cases right
  cases same
  rfl

@[simp] theorem find?_empty (key : String) :
    (empty : Assoc α).find? key = none :=
  rfl

/-- Among entries with distinct keys, a look-up finds exactly the entries. -/
theorem lookup_eq_some_iff
    {key : String}
    {value : α}
    {entries : List (String × α)}
    (distinct : (entries.map Prod.fst).Nodup) :
    lookup key entries = some value ↔ (key, value) ∈ entries := by
  induction entries with
  | nil =>
      simp [lookup]
  | cons entry rest inductionHypothesis =>
      rcases entry with ⟨present, stored⟩
      simp only [map_cons, nodup_cons] at distinct
      by_cases same : present = key
      · subst same
        have notLater : (present, value) ∉ rest := by
          intro member
          exact distinct.1 (mem_map_of_mem member)
        simp [lookup, notLater, eq_comm]
      · simp [lookup, same, Ne.symm same,
          inductionHypothesis distinct.2]

/-- A look-up in a map finds exactly its entries. -/
theorem find?_eq_some_iff
    {map : Assoc α}
    {key : String}
    {value : α} :
    map.find? key = some value ↔ (key, value) ∈ map.entries :=
  lookup_eq_some_iff map.distinct

/-- The keys of a map are those that have a value. -/
theorem mem_keys_iff
    {map : Assoc α}
    {key : String} :
    key ∈ map.keys ↔ ∃ value, map.find? key = some value := by
  simp [keys, find?_eq_some_iff]

/-- The values of a map are those that are found under its keys in turn. -/
theorem values_eq_map_keys
    {map : Assoc α}
    {value : String → α}
    (found : ∀ key ∈ map.keys, map.find? key = some (value key)) :
    map.values = map.keys.map value := by
  rw [values, keys, map_map]
  apply map_congr_left
  intro entry member
  have stored := found entry.1 (mem_map_of_mem member)
  rw [find?_eq_some_iff.mpr member, Option.some.injEq] at stored
  exact stored

/-- Maps whose entries agree up to order answer alike. -/
theorem find?_eq_of_perm
    {left right : Assoc α}
    (same : left.entries.Perm right.entries)
    (key : String) :
    left.find? key = right.find? key := by
  ext value
  rw [find?_eq_some_iff, find?_eq_some_iff]
  exact same.mem_iff

/-! ## Storing and erasing -/

/-- Storing under a key changes the look-up of that key alone. -/
theorem lookup_storeEntry
    {key other : String}
    {value : α}
    {entries : List (String × α)} :
    lookup other (storeEntry key value entries) =
      if key = other then some value else lookup other entries := by
  induction entries with
  | nil =>
      simp [storeEntry, lookup]
  | cons entry rest inductionHypothesis =>
      rcases entry with ⟨present, old⟩
      by_cases same : present = key
      · subst same
        by_cases asked : present = other <;>
          simp [storeEntry, lookup, asked]
      · by_cases asked : present = other
        · subst asked
          simp [storeEntry, lookup, same, Ne.symm same]
        · simp [storeEntry, lookup, same, asked,
            inductionHypothesis]

theorem find?_insert
    (map : Assoc α)
    (key other : String)
    (value : α) :
    (map.insert key value).find? other =
      if key = other then some value else map.find? other :=
  lookup_storeEntry

/-- Of two values that are stored under a key the second one stays. -/
theorem insert_insert
    (map : Assoc α)
    (key : String)
    (first second : α) :
    (map.insert key first).insert key second = map.insert key second := by
  apply ext_entries
  change storeEntry key second (storeEntry key first map.entries) =
    storeEntry key second map.entries
  induction map.entries with
  | nil =>
      simp [storeEntry]
  | cons entry rest inductionHypothesis =>
      rcases entry with ⟨present, old⟩
      by_cases same : present = key
      · simp [storeEntry, same]
      · simp [storeEntry, same, inductionHypothesis]

/-- A new key comes last. -/
theorem storeEntry_of_not_mem
    {key : String}
    {value : α}
    {entries : List (String × α)}
    (absent : key ∉ entries.map Prod.fst) :
    storeEntry key value entries = entries ++ [(key, value)] := by
  induction entries with
  | nil =>
      rfl
  | cons entry rest inductionHypothesis =>
      rcases entry with ⟨present, old⟩
      simp only [map_cons, mem_cons, not_or] at absent
      simp [storeEntry, Ne.symm absent.1,
        inductionHypothesis absent.2]

/-- Erasing a key makes it absent and leaves the other keys. -/
theorem find?_erase
    (map : Assoc α)
    (key other : String) :
    (map.erase key).find? other =
      if key = other then none else map.find? other := by
  by_cases same : key = other
  · subst same
    rw [if_pos rfl, Option.eq_none_iff_forall_ne_some]
    intro value found
    simp [find?_eq_some_iff, erase] at found
  · rw [if_neg same]
    ext value
    simp [find?_eq_some_iff, erase, Ne.symm same]

/-! ## Maps from lists of entries -/

/-- Entries with distinct keys that are new to a map are appended to it. -/
theorem entries_foldl_insert
    {entries : List (String × α)}
    (map : Assoc α)
    (distinct : (map.keys ++ entries.map Prod.fst).Nodup) :
    (entries.foldl
        (fun built entry => built.insert entry.1 entry.2) map).entries =
      map.entries ++ entries := by
  induction entries generalizing map with
  | nil =>
      simp
  | cons entry rest inductionHypothesis =>
      have absent : entry.1 ∉ map.entries.map Prod.fst := by
        intro member
        exact (nodup_append.mp distinct).2.2
          entry.1 member entry.1 (by simp) rfl
      have stored :
          (map.insert entry.1 entry.2).entries =
            map.entries ++ [entry] :=
        storeEntry_of_not_mem absent
      have restDistinct :
          ((map.insert entry.1 entry.2).keys ++
            rest.map Prod.fst).Nodup := by
        simpa [keys, stored] using distinct
      rw [foldl_cons, inductionHypothesis _ restDistinct, stored]
      simp

/-- A list of entries with distinct keys is the list of entries of its map. -/
theorem entries_ofList
    {entries : List (String × α)}
    (distinct : (entries.map Prod.fst).Nodup) :
    (ofList entries).entries = entries :=
  entries_foldl_insert empty (by simpa [keys, empty] using distinct)

theorem lookup_append
    (key : String)
    (entries others : List (String × α)) :
    lookup key (entries ++ others) =
      (lookup key entries).or (lookup key others) := by
  induction entries with
  | nil =>
      rfl
  | cons entry rest inductionHypothesis =>
      rcases entry with ⟨present, value⟩
      by_cases same : present = key
      · simp [lookup, same]
      · simpa [lookup, same] using inductionHypothesis

/-- Entries that are named by their elements are found by the names of these. -/
theorem lookup_map
    {γ : Type}
    [DecidableEq γ]
    {name : γ → String}
    (toldByName : Function.Injective name)
    (value : γ → α)
    (element : γ)
    (elements : List γ) :
    lookup (name element)
        (elements.map fun other => (name other, value other)) =
      if element ∈ elements then some (value element) else none := by
  induction elements with
  | nil =>
      rfl
  | cons other rest inductionHypothesis =>
      by_cases same : other = element
      · subst same
        simp [lookup]
      · have otherName : name other ≠ name element :=
          fun sameName => same (toldByName sameName)
        simpa [lookup, otherName, Ne.symm same] using inductionHypothesis

theorem find?_foldl_insert
    (map : Assoc α)
    (entries : List (String × α))
    (key : String) :
    (entries.foldl
        (fun built entry => built.insert entry.1 entry.2) map).find? key =
      (lookup key entries.reverse).or (map.find? key) := by
  induction entries generalizing map with
  | nil =>
      rfl
  | cons entry rest inductionHypothesis =>
      rw [foldl_cons, inductionHypothesis, find?_insert, reverse_cons,
        lookup_append, Option.or_assoc]
      congr 1
      by_cases same : entry.1 = key <;>
        simp [lookup, same]

/-- In the map of a list of entries the last value of a key is found. -/
theorem find?_ofList
    (entries : List (String × α))
    (key : String) :
    (ofList entries).find? key = lookup key entries.reverse := by
  rw [ofList, find?_foldl_insert, find?_empty, Option.or_none]

/-- A value is found under its key when no other value has been listed under it. -/
theorem find?_ofList_of_only
    {entries : List (String × α)}
    {key : String}
    {value : α}
    (member : (key, value) ∈ entries)
    (only : ∀ other, (key, other) ∈ entries → other = value) :
    (ofList entries).find? key = some value := by
  have found (listed : List (String × α)) (within : ∀ entry ∈ listed, entry ∈ entries)
      (present : (key, value) ∈ listed) :
      lookup key listed = some value := by
    induction listed with
    | nil =>
        exact absurd present List.not_mem_nil
    | cons entry rest inductionHypothesis =>
        obtain ⟨own, first⟩ := entry
        rw [List.forall_mem_cons] at within
        rw [lookup]
        by_cases same : own = key
        · subst same
          rw [if_pos rfl, only first within.1]
        · rw [if_neg same]
          refine inductionHypothesis within.2 ((List.mem_cons.mp present).resolve_left ?_)
          rintro ⟨⟩
          exact same rfl
  rw [find?_ofList]
  exact found entries.reverse (fun entry => List.mem_reverse.mp) (List.mem_reverse.mpr member)

/-! ## Images of maps -/

@[simp] theorem keys_mapValues
    (f : String → α → β)
    (map : Assoc α) :
    (map.mapValues f).keys = map.keys := by
  simp [keys, mapValues]

theorem find?_mapValues
    (f : String → α → β)
    (map : Assoc α)
    (key : String) :
    (map.mapValues f).find? key = (map.find? key).map (f key) := by
  have lookupImage (entries : List (String × α)) :
      lookup key (entries.map fun entry => (entry.1, f entry.1 entry.2)) =
        (lookup key entries).map (f key) := by
    induction entries with
    | nil =>
        rfl
    | cons entry rest inductionHypothesis =>
        rcases entry with ⟨present, value⟩
        by_cases same : present = key
        · subst same
          simp [lookup]
        · simpa [lookup, same] using inductionHypothesis
  exact lookupImage map.entries

@[simp] theorem size_mapValues
    (f : String → α → β)
    (map : Assoc α) :
    (map.mapValues f).size = map.size := by
  simp [size, mapValues]

/-- Storing a value and replacing values can be done in either order. -/
theorem mapValues_insert
    (f : String → α → β)
    (map : Assoc α)
    (key : String)
    (value : α) :
    (map.insert key value).mapValues f =
      (map.mapValues f).insert key (f key value) := by
  have storeImage (entries : List (String × α)) :
      (storeEntry key value entries).map
          (fun entry => (entry.1, f entry.1 entry.2)) =
        storeEntry key (f key value)
          (entries.map fun entry => (entry.1, f entry.1 entry.2)) := by
    induction entries with
    | nil =>
        rfl
    | cons entry rest inductionHypothesis =>
        rcases entry with ⟨present, old⟩
        by_cases same : present = key
        · simp [storeEntry, same]
        · simp [storeEntry, same, inductionHypothesis]
  exact ext_entries (storeImage map.entries)

/-- Erasing a key and replacing values can be done in either order. -/
theorem mapValues_erase
    (f : String → α → β)
    (map : Assoc α)
    (key : String) :
    (map.erase key).mapValues f = (map.mapValues f).erase key := by
  apply ext_entries
  simp [mapValues, erase, filter_map, Function.comp_def]

/-! ## Keys -/

/-- The keys after a value has been stored: a new key comes last. -/
theorem keys_insert
    (map : Assoc α)
    (key : String)
    (value : α) :
    (map.insert key value).keys = if key ∈ map.keys then map.keys else map.keys ++ [key] := by
  have keysOf (entries : List (String × α)) :
      (storeEntry key value entries).map Prod.fst =
        if key ∈ entries.map Prod.fst then entries.map Prod.fst
        else entries.map Prod.fst ++ [key] := by
    induction entries with
    | nil =>
        rfl
    | cons entry rest inductionHypothesis =>
        obtain ⟨present, old⟩ := entry
        by_cases same : present = key
        · simp [storeEntry, same]
        · have different : ¬key = present := fun equal => same equal.symm
          simp only [storeEntry, if_neg same, List.map_cons, inductionHypothesis, List.mem_cons,
            different, false_or]
          split <;> rfl
  exact keysOf map.entries

/-- The keys after one has been erased. -/
theorem keys_erase
    (map : Assoc α)
    (key : String) :
    (map.erase key).keys = map.keys.filter fun present => present != key := by
  simp [keys, erase, List.filter_map, Function.comp_def]

end Tabular.Assoc
