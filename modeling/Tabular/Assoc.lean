namespace Tabular

/-!
# Ordered maps with text keys

Rows, type maps, alias maps and sets of tables are maps from texts that remember the order in which
their keys first came. Storing under a key that is present keeps its place.
-/

/-- A map from texts to values that remembers the order of its keys. -/
structure Assoc (α : Type) where
  entries : List (String × α)
  distinct : (entries.map Prod.fst).Nodup
deriving DecidableEq

namespace Assoc

variable {α β : Type}

/-- The map without keys. -/
def empty : Assoc α := ⟨[], List.nodup_nil⟩

instance : Inhabited (Assoc α) := ⟨empty⟩

instance : EmptyCollection (Assoc α) := ⟨empty⟩

/-- The keys in order. -/
def keys (map : Assoc α) : List String :=
  map.entries.map Prod.fst

/-- The values in the order of their keys. -/
def values (map : Assoc α) : List α :=
  map.entries.map Prod.snd

/-- The number of keys. -/
def size (map : Assoc α) : Nat :=
  map.entries.length

/-- The value of the first entry with the key. -/
def lookup (key : String) : List (String × α) → Option α
  | [] => none
  | (present, value) :: rest => if present = key then some value else lookup key rest

/-- The value under a key. -/
def find? (map : Assoc α) (key : String) : Option α :=
  lookup key map.entries

/-- The key is present. -/
def contains (map : Assoc α) (key : String) : Bool :=
  (map.find? key).isSome

/-- The entries with a value stored in the place of its key, or at the end. -/
def storeEntry (key : String) (value : α) : List (String × α) → List (String × α)
  | [] => [(key, value)]
  | (present, old) :: rest =>
      if present = key then (key, value) :: rest
      else (present, old) :: storeEntry key value rest

theorem mem_keys_storeEntry {key other : String} {value : α} {entries : List (String × α)} :
    other ∈ (storeEntry key value entries).map Prod.fst ↔
      other = key ∨ other ∈ entries.map Prod.fst := by
  induction entries with
  | nil => simp [storeEntry]
  | cons entry rest inductionHypothesis =>
    obtain ⟨present, old⟩ := entry
    by_cases same : present = key
    · subst same
      simp [storeEntry]
    · simp only [storeEntry, if_neg same, List.map_cons, List.mem_cons, inductionHypothesis]
      constructor
      · rintro (h | h | h)
        · exact Or.inr (Or.inl h)
        · exact Or.inl h
        · exact Or.inr (Or.inr h)
      · rintro (h | h | h)
        · exact Or.inr (Or.inl h)
        · exact Or.inl h
        · exact Or.inr (Or.inr h)

theorem nodup_keys_storeEntry {key : String} {value : α} {entries : List (String × α)}
    (distinct : (entries.map Prod.fst).Nodup) :
    ((storeEntry key value entries).map Prod.fst).Nodup := by
  induction entries with
  | nil => simp [storeEntry]
  | cons entry rest inductionHypothesis =>
    obtain ⟨present, old⟩ := entry
    simp only [List.map_cons, List.nodup_cons] at distinct
    by_cases same : present = key
    · subst same
      simpa [storeEntry] using distinct
    · simp only [storeEntry, if_neg same, List.map_cons, List.nodup_cons]
      refine ⟨fun member => ?_, inductionHypothesis distinct.2⟩
      rcases mem_keys_storeEntry.1 member with equal | member
      · exact same equal
      · exact distinct.1 member

/-- The map with a value stored under a key, which keeps its place when it is present. -/
def insert (map : Assoc α) (key : String) (value : α) : Assoc α :=
  ⟨storeEntry key value map.entries, nodup_keys_storeEntry map.distinct⟩

/-- The map without a key. -/
def erase (map : Assoc α) (key : String) : Assoc α where
  entries := map.entries.filter fun entry => entry.1 != key
  distinct :=
    map.distinct.sublist (List.filter_sublist.map Prod.fst)

/-- The map of a list of entries; the last value of a repeated key counts, in its first place. -/
def ofList (entries : List (String × α)) : Assoc α :=
  entries.foldl (fun map entry => map.insert entry.1 entry.2) empty

/-- The map with every value replaced by its image. -/
def mapValues (f : String → α → β) (map : Assoc α) : Assoc β where
  entries := map.entries.map fun entry => (entry.1, f entry.1 entry.2)
  distinct := by
    have sameKeys :
        (map.entries.map fun entry => (entry.1, f entry.1 entry.2)).map Prod.fst =
          map.entries.map Prod.fst := by
      simp [List.map_map, Function.comp_def]
    rw [sameKeys]
    exact map.distinct

end Assoc

end Tabular
