import Mathlib.Data.List.Forall2
import Tabular.Cache.Basic
import Tabular.Proofs.Outcome

namespace Tabular

open List

/-!
# Histories of caches

What the calls on a cache say about its entries, without the cache: which keys were requested last,
and what was computed for them. A history is the list of the calls so far, the latest one first.
Keys are told apart by a comparison that is symmetric and transitive; a key that is not even equal
to itself is never found again.
-/

/-- A call on a cache. -/
inductive CacheCall (κ α : Type) where
  | request (key : κ) (factory : Unit → Outcome α)
  | clear

namespace SnapshotCache

variable {κ α : Type} [BEq κ]

/-- The cache after a call. -/
def afterCall (cache : SnapshotCache κ α) : CacheCall κ α → SnapshotCache κ α
  | .request key factory => (cache.getOrCompute key factory).2
  | .clear => cache.clear

/-- The cache after calls. -/
def after (cache : SnapshotCache κ α) (calls : List (CacheCall κ α)) : SnapshotCache κ α :=
  calls.foldl afterCall cache

end SnapshotCache

namespace CacheHistory

variable {κ α : Type} [BEq κ]

/-- The distinct keys among requested ones that were requested last, at most `bound` of them. -/
def latest (bound : Nat) (requested : List κ) : List κ :=
  requested.eraseDups.take bound

/--
The keys of the requests since the last clearing that were answered: their keys were among the
latest ones then, or a value was computed.
-/
def answered (bound : Nat) : List (CacheCall κ α) → List κ
  | [] => []
  | .clear :: _ => []
  | .request key factory :: earlier =>
      if (latest bound (answered bound earlier)).contains key ||
          (factory ()).fault?.isNone then
        key :: answered bound earlier
      else answered bound earlier

/-- The keys that a cache with the history should hold. -/
def kept (bound : Nat) (history : List (CacheCall κ α)) : List κ :=
  latest bound (answered bound history)

/-- What was computed for a key when it was requested last without being kept. -/
def lastMiss? (bound : Nat) (key : κ) : List (CacheCall κ α) → Option (Outcome α)
  | [] => none
  | .clear :: earlier => lastMiss? bound key earlier
  | .request other factory :: earlier =>
      if other == key && !(kept bound earlier).contains other then some (factory ())
      else lastMiss? bound key earlier

/-- Two keys are one key, or compare equal. -/
def SameKey (left right : κ) : Prop :=
  left = right ∨ (left == right) = true

/-- No two keys of the list compare equal. -/
def Apart (keys : List κ) : Prop :=
  keys.Pairwise fun left right => (left == right) = false

variable [PartialEquivBEq κ]

/-! ## Comparing keys -/

/-- Keys that compare equal compare alike with any key. -/
theorem beq_congr
    {left right : κ}
    (same : (left == right) = true)
    (key : κ) :
    (left == key) = (right == key) := by
  rw [Bool.eq_iff_iff]
  exact ⟨PartialEquivBEq.trans (PartialEquivBEq.symm same), PartialEquivBEq.trans same⟩

theorem beq_comm
    (left right : κ) :
    (left == right) = (right == left) := by
  rw [Bool.eq_iff_iff]
  exact ⟨PartialEquivBEq.symm, PartialEquivBEq.symm⟩

theorem SameKey.beq_eq
    {left right : κ}
    (same : SameKey left right)
    (key : κ) :
    (left == key) = (right == key) := by
  rcases same with rfl | equal
  · rfl
  · exact beq_congr equal key

/-- A key is among others when one of them equals it. -/
theorem contains_iff
    {key : κ}
    {keys : List κ} :
    keys.contains key = true ↔ ∃ other ∈ keys, (other == key) = true := by
  simp only [contains_eq_any_beq, any_eq_true, beq_comm key]

theorem not_contains_iff
    {key : κ}
    {keys : List κ} :
    keys.contains key = false ↔ ∀ other ∈ keys, (other == key) = false := by
  simp only [← Bool.not_eq_true, contains_iff, not_exists, not_and]

/-- When a key is not among others, all stay where those that equal it are dropped. -/
theorem filter_ne_eq_self
    {key : κ}
    {keys : List κ}
    (notAmong : keys.contains key = false) :
    (keys.filter fun other => !other == key) = keys := by
  rw [filter_eq_self]
  intro other member
  rw [not_contains_iff.mp notAmong other member]
  rfl

/-! ## Distinct keys -/

namespace Apart

variable {first key : κ} {rest keys : List κ}

/-- What equals the first of keys that are apart is not among the others. -/
theorem not_contains_tail
    (apart : Apart (first :: rest))
    (equal : (first == key) = true) :
    rest.contains key = false := by
  rw [not_contains_iff]
  intro other member
  rw [beq_comm, ← beq_congr equal]
  exact (pairwise_cons.mp apart).1 other member

/-- Among keys that are apart, all but one stay when those that equal one of them are dropped. -/
theorem length_filter_ne
    (apart : Apart keys)
    (among : keys.contains key = true) :
    (keys.filter fun other => !other == key).length + 1 = keys.length := by
  induction keys with
  | nil =>
      simp at among
  | cons first rest inductionHypothesis =>
      cases equal : first == key with
      | true =>
          rw [filter_cons_of_neg (by simp [equal]),
            filter_ne_eq_self (apart.not_contains_tail equal), length_cons]
      | false =>
          have amongRest : rest.contains key = true := by
            obtain ⟨other, member, same⟩ := contains_iff.mp among
            rcases mem_cons.mp member with rfl | inRest
            · rw [equal] at same
              exact absurd same Bool.false_ne_true
            · exact contains_iff.mpr ⟨other, inRest, same⟩
          rw [filter_cons_of_pos (by simp [equal]), length_cons, length_cons,
            inductionHypothesis apart.of_cons amongRest]

end Apart

/-- Dropping what equals a key and dropping repeated keys can be done in either order. -/
theorem eraseDups_filter_ne
    (key : κ)
    (keys : List κ) :
    (keys.filter fun other => !other == key).eraseDups =
      keys.eraseDups.filter fun other => !other == key := by
  induction length : keys.length using Nat.strongRecOn generalizing keys with
  | _ size inductionHypothesis =>
      cases keys with
      | nil =>
          rfl
      | cons first rest =>
          have shorter : (rest.filter fun other => !other == first).length < size := by
            rw [← length, length_cons]
            exact Nat.lt_succ_of_le (length_filter_le _ _)
          have restSame := inductionHypothesis _ shorter _ rfl
          rw [filter_comm] at restSame
          rw [eraseDups_cons]
          cases equal : first == key with
          | false =>
              rw [filter_cons_of_pos (by simp [equal]), filter_cons_of_pos (by simp [equal]),
                eraseDups_cons, restSame]
          | true =>
              have dropped :
                  ((rest.filter fun other => !other == key).filter fun other =>
                    !other == first) = rest.filter fun other => !other == key := by
                rw [filter_eq_self]
                intro other member
                rw [beq_comm, beq_congr equal, beq_comm]
                exact (mem_filter.mp member).2
              rw [filter_cons_of_neg (by simp [equal]), filter_cons_of_neg (by simp [equal]),
                ← dropped, restSame]

/-- The distinct keys of a list with one more key in front. -/
theorem eraseDups_cons_eq
    (key : κ)
    (keys : List κ) :
    (key :: keys).eraseDups =
      key :: keys.eraseDups.filter fun other => !other == key := by
  rw [eraseDups_cons, eraseDups_filter_ne]

theorem apart_eraseDups
    (keys : List κ) :
    Apart keys.eraseDups := by
  induction keys with
  | nil =>
      exact Pairwise.nil
  | cons key rest inductionHypothesis =>
      rw [eraseDups_cons_eq]
      refine Pairwise.cons ?_ (inductionHypothesis.filter _)
      intro other member
      rw [beq_comm]
      simpa using (mem_filter.mp member).2

/-! ## The latest keys -/

section Latest

variable {bound : Nat} {key : κ} {requested : List κ}

theorem apart_latest :
    Apart (latest bound requested) :=
  (apart_eraseDups requested).sublist (take_sublist _ _)

omit [PartialEquivBEq κ] in
/-- Beyond the latest keys there are no others, unless there are as many of them as there can be. -/
theorem eraseDups_eq_latest_append
    (bound : Nat)
    (requested : List κ) :
    ∃ older,
      requested.eraseDups = latest bound requested ++ older ∧
        (older = [] ∨ (latest bound requested).length = bound) := by
  refine ⟨requested.eraseDups.drop bound, (take_append_drop _ _).symm, ?_⟩
  rcases Nat.le_total requested.eraseDups.length bound with few | many
  · exact .inl (drop_eq_nil_of_le few)
  · exact .inr (length_take_of_le many)

/-- A key that is among the latest ones becomes the first of them. -/
theorem latest_cons_of_contains
    (among : (latest bound requested).contains key = true) :
    latest bound (key :: requested) =
      key :: (latest bound requested).filter fun other => !other == key := by
  have count := apart_latest.length_filter_ne among
  have atMost : (latest bound requested).length ≤ bound := length_take_le _ _
  obtain ⟨older, parts, full⟩ := eraseDups_eq_latest_append bound requested
  obtain ⟨room, rfl⟩ : ∃ room, bound = room + 1 := ⟨bound - 1, by omega⟩
  conv_lhs => rw [latest, eraseDups_cons_eq, parts, filter_append, take_succ_cons]
  rcases full with rfl | isFull
  · rw [filter_nil, append_nil, take_of_length_le (by omega)]
  · rw [take_left' (by omega)]

/-- A key that is not among the latest ones comes before them, and the last one may drop out. -/
theorem latest_cons_of_not_contains
    (notAmong : (latest bound requested).contains key = false) :
    latest bound (key :: requested) =
      (key :: latest bound requested).take bound := by
  obtain ⟨older, parts, full⟩ := eraseDups_eq_latest_append bound requested
  conv_lhs =>
    rw [latest, eraseDups_cons_eq, parts, filter_append, filter_ne_eq_self notAmong]
  rcases full with rfl | isFull
  · rw [filter_nil, append_nil]
  · cases bound with
    | zero =>
        rfl
    | succ room =>
        rw [take_succ_cons, take_succ_cons, take_append_of_le_length (by omega)]

end Latest

/-! ## One more request -/

section Request

variable
  {bound : Nat}
  {history : List (CacheCall κ α)}
  {key : κ}
  {factory : Unit → Outcome α}

omit [PartialEquivBEq κ] in
@[simp] theorem kept_nil :
    kept bound ([] : List (CacheCall κ α)) = [] := by
  simp [kept, latest, answered]

omit [PartialEquivBEq κ] in
@[simp] theorem kept_clear :
    kept bound (.clear :: history) = [] := by
  simp [kept, latest, answered]

/-- A request for a key that is kept makes it the latest one. -/
theorem kept_of_hit
    (among : (kept bound history).contains key = true) :
    kept bound (.request key factory :: history) =
      key :: (kept bound history).filter fun other => !other == key := by
  rw [kept] at among
  rw [kept, answered, among, Bool.true_or, if_pos rfl, latest_cons_of_contains among]
  rfl

/-- A request for another key adds it when a value is computed. -/
theorem kept_of_miss
    (notAmong : (kept bound history).contains key = false)
    {value : α}
    (computed : factory () = .ok value) :
    kept bound (.request key factory :: history) =
      (key :: kept bound history).take bound := by
  rw [kept] at notAmong
  rw [kept, answered, notAmong, computed, Bool.false_or, Outcome.fault?,
    if_pos (by rfl), latest_cons_of_not_contains notAmong]
  rfl

omit [PartialEquivBEq κ] in
/-- A request that fails changes nothing. -/
theorem kept_of_failure
    (notAmong : (kept bound history).contains key = false)
    {fault : Fault}
    (failed : factory () = .error fault) :
    kept bound (.request key factory :: history) = kept bound history := by
  rw [kept] at notAmong
  rw [kept, answered, notAmong, failed, Bool.false_or, Outcome.fault?]
  rfl

/-- The last miss is that of a key, however the key is written. -/
theorem lastMiss?_congr
    {left right : κ}
    (same : (left == right) = true) :
    lastMiss? bound left history = lastMiss? bound right history := by
  have alike (other : κ) : (other == left) = (other == right) := by
    rw [beq_comm, beq_congr same, beq_comm]
  induction history with
  | nil =>
      rfl
  | cons call earlier inductionHypothesis =>
      cases call with
      | clear =>
          exact inductionHypothesis
      | request other factory =>
          simp only [lastMiss?, alike, inductionHypothesis]

omit [PartialEquivBEq κ] in
/-- A request is no miss of a key, unless it is one for the key while that is not kept. -/
theorem lastMiss?_of_other
    {other : κ}
    (notMissed : (key == other) = true → (kept bound history).contains key = true) :
    lastMiss? bound other (.request key factory :: history) =
      lastMiss? bound other history := by
  rw [lastMiss?, if_neg]
  intro missed
  obtain ⟨same, notKept⟩ := (Bool.and_eq_true _ _).mp missed
  rw [notMissed same] at notKept
  exact Bool.false_ne_true notKept

end Request

end CacheHistory

end Tabular
