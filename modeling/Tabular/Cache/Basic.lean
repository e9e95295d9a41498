import Tabular.Fault
import Tabular.Settings

namespace Tabular

/-!
# Bounded caches

A cache keeps the values of the keys that were requested last. A request for a key that is kept
answers its value; any other request computes the value, keeps it, and drops the key whose last
request is the longest ago when there are more keys than the bound allows. A computation that fails
leaves the cache as it was. Keys hold the versions of the snapshots that a value was computed from,
so nothing ever has to be invalidated.
-/

/-- A cache with the keys in the order of their last requests. -/
structure SnapshotCache (κ α : Type) where
  bound : Int
  entries : List (κ × α) := []

namespace SnapshotCache

variable {κ α : Type}

/-- The cache without entries. -/
def empty (bound : Int) : SnapshotCache κ α where
  bound

/-- The bound that is asked for; zero and nothing ask for the one of the settings. -/
def boundOf (settings : Settings) : Option Int → Int
  | some bound => if bound = 0 then settings.cacheMaxEntries else bound
  | none => settings.cacheMaxEntries

/-- The number of entries. -/
def size (cache : SnapshotCache κ α) : Nat :=
  cache.entries.length

/-- The cache of the same bound without entries. -/
def clear (cache : SnapshotCache κ α) : SnapshotCache κ α :=
  empty cache.bound

variable [BEq κ]

/-- The value of a key. -/
def find? (cache : SnapshotCache κ α) (key : κ) : Option α :=
  (cache.entries.find? fun entry => entry.1 == key).map Prod.snd

/-- The entries with the one of a key moved to the end. -/
def moveToEnd (key : κ) (entries : List (κ × α)) : List (κ × α) :=
  match entries.find? fun entry => entry.1 == key with
  | some entry => entries.eraseP (fun entry => entry.1 == key) ++ [entry]
  | none => entries

/-- The cache after a request for a key that it holds. -/
def touch (cache : SnapshotCache κ α) (key : κ) : SnapshotCache κ α :=
  { cache with entries := moveToEnd key cache.entries }

omit [BEq κ] in
/-- The cache with a new key, without its first entry when it holds too many. -/
def store (cache : SnapshotCache κ α) (key : κ) (value : α) : SnapshotCache κ α :=
  let entries := cache.entries ++ [(key, value)]
  { cache with entries := if cache.bound < entries.length then entries.drop 1 else entries }

/-- The value of a key, computed when the cache does not hold it, and the cache afterwards. -/
def getOrCompute (cache : SnapshotCache κ α) (key : κ) (factory : Unit → Outcome α) :
    Outcome α × SnapshotCache κ α :=
  match cache.find? key with
  | some value => (.ok value, cache.touch key)
  | none =>
      match factory () with
      | .ok value => (.ok value, cache.store key value)
      | .error fault => (.error fault, cache)

end SnapshotCache

end Tabular
