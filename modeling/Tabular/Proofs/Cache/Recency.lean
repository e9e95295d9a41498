import Tabular.Cache.Key
import Tabular.Proofs.Cache.History
import Tabular.Proofs.Cell.Value

namespace Tabular

open List

/-!
# Caches hold what was requested last

Moving a key to the end when it is found, and dropping the first one when there are too many, keeps
exactly the keys that the history names, in the order of their last requests, each with the value
that was computed at its last miss.
-/

/-!
## What keys denote

Keys are the same when their operations are and their values denote the same. So sameness of keys is
symmetric and transitive; a key that holds the not-a-number is not even the same as itself.
-/

section

open Meaning

namespace KeyParameter

/-- What the values of a list denote. -/
def meanings? : List Cell → Option (List Meaning)
  | [] => some []
  | value :: rest =>
      value.meaning?.bind fun denoted => (meanings? rest).map (List.cons denoted)

/-- What a parameter denotes. -/
def meaning? : KeyParameter → Option (Meaning ⊕ List Meaning)
  | .single value => value.meaning?.map .inl
  | .several values => (meanings? values).map .inr

theorem meanings?_cons_ne_nil
    (value : Cell)
    (rest : List Cell) :
    meanings? (value :: rest) ≠ some [] := by
  rw [meanings?]
  cases value.meaning? <;> cases meanings? rest <;> simp

/-- Lists hold the same values when they denote the same. -/
theorem sameValues_iff
    (left right : List Cell) :
    Cell.sameValues left right = true ↔
      Agree (meanings? left) (meanings? right) := by
  induction left generalizing right with
  | nil =>
      cases right with
      | nil =>
          simp [Cell.sameValues, meanings?]
      | cons other others =>
          rw [agree_comm, meanings?, agree_some_right]
          simp [Cell.sameValues, meanings?_cons_ne_nil]
  | cons value rest inductionHypothesis =>
      cases right with
      | nil =>
          rw [meanings?.eq_1, agree_some_right]
          simp [Cell.sameValues, meanings?_cons_ne_nil]
      | cons other others =>
          have apart : Function.Injective2 (List.cons (α := Meaning)) :=
            fun _ _ _ _ same => List.cons.inj same
          rw [meanings?, meanings?, agree_bind_map_iff apart, ← Cell.sameValue_iff,
            ← inductionHypothesis]
          simp [Cell.sameValues, and_left_comm]

/-- Parameters are the same when they denote the same. -/
theorem same_iff
    (left right : KeyParameter) :
    left.same right = true ↔ Agree left.meaning? right.meaning? := by
  cases left with
  | single value =>
      cases right with
      | single other =>
          rw [meaning?, meaning?, agree_map_iff Sum.inl_injective]
          exact Cell.sameValue_iff value other
      | several others =>
          simp [same, meaning?, Agree]
  | several values =>
      cases right with
      | single other =>
          simp [same, meaning?, Agree]
      | several others =>
          rw [meaning?, meaning?, agree_map_iff Sum.inr_injective]
          exact sameValues_iff values others

end KeyParameter

namespace RequestKey

/-- What a key denotes, apart from the operation that it names. -/
def meaning? (key : RequestKey) :
    Option (List Meaning × (Meaning ⊕ List Meaning)) :=
  (KeyParameter.meanings? key.versions).bind fun versions =>
    key.parameter.meaning?.map (Prod.mk versions)

/-- Keys are the same when they name the same operation and denote the same. -/
theorem beq_iff
    (left right : RequestKey) :
    (left == right) = true ↔
      left.operation = right.operation ∧ Agree left.meaning? right.meaning? := by
  have apart : Function.Injective2
      (Prod.mk (α := List Meaning) (β := Meaning ⊕ List Meaning)) :=
    fun _ _ _ _ same => Prod.mk.inj same
  rw [meaning?, meaning?, agree_bind_map_iff apart, ← KeyParameter.sameValues_iff,
    ← KeyParameter.same_iff]
  change left.same right = true ↔ _
  simp [RequestKey.same, and_assoc]

instance : PartialEquivBEq RequestKey where
  symm {left right} same := by
    rw [beq_iff] at same ⊢
    exact ⟨same.1.symm, agree_comm.mp same.2⟩
  trans {left middle right} same sameNext := by
    rw [beq_iff] at same sameNext ⊢
    exact ⟨same.1.trans sameNext.1, same.2.trans sameNext.2⟩

end RequestKey

end

variable {κ α : Type} [BEq κ] [PartialEquivBEq κ]

open CacheHistory

/-! ## Entries -/

namespace SnapshotCache

/-- Among entries that are apart, dropping the one with a key is dropping all with the key. -/
theorem eraseP_eq_filter
    {entries : List (κ × α)}
    (apart : Apart (entries.map Prod.fst))
    (key : κ) :
    entries.eraseP (fun entry => entry.1 == key) =
      entries.filter fun entry => !entry.1 == key := by
  induction entries with
  | nil =>
      rfl
  | cons first rest inductionHypothesis =>
      rw [map_cons] at apart
      cases equal : first.1 == key with
      | false =>
          rw [eraseP_cons_of_neg (by simp [equal]), filter_cons_of_pos (by simp [equal]),
            inductionHypothesis apart.of_cons]
      | true =>
          have allStay := filter_ne_eq_self (apart.not_contains_tail equal)
          rw [filter_map] at allStay
          have lengths := congrArg length allStay
          rw [length_map, length_map] at lengths
          rw [eraseP_cons_of_pos (by simp [equal]), filter_cons_of_neg (by simp [equal])]
          exact (filter_sublist.eq_of_length lengths).symm

variable {cache : SnapshotCache κ α}

/-- A key that is found comes last, before it what was requested earlier. -/
theorem reverse_entries_touch
    (apart : Apart (cache.entries.map Prod.fst))
    {key : κ}
    {entry : κ × α}
    (found : cache.entries.find? (fun entry => entry.1 == key) = some entry) :
    (cache.touch key).entries.reverse =
      entry :: cache.entries.reverse.filter fun entry => !entry.1 == key := by
  rw [touch, moveToEnd, found]
  dsimp only
  rw [reverse_append, eraseP_eq_filter apart, filter_reverse]
  rfl

omit [BEq κ] [PartialEquivBEq κ] in
/-- A new key comes last, and the one requested first drops out when there are too many. -/
theorem reverse_entries_store
    {bound : Nat}
    (sameBound : cache.bound = bound)
    (fits : cache.entries.length ≤ bound)
    (key : κ)
    (value : α) :
    (cache.store key value).entries.reverse =
      ((key, value) :: cache.entries.reverse).take bound := by
  have length : (cache.entries ++ [(key, value)]).length = cache.entries.length + 1 :=
    length_append
  have reversed :
      (cache.entries ++ [(key, value)]).reverse = (key, value) :: cache.entries.reverse := by
    simp
  rw [store]
  dsimp only
  rw [sameBound, length]
  split_ifs with full
  · have isFull : bound = cache.entries.length := by omega
    rw [reverse_drop, reversed, length, isFull, Nat.add_sub_cancel]
  · rw [reversed, take_of_length_le (by rw [length_cons, length_reverse]; omega)]

end SnapshotCache

/-! ## Entries and histories -/

namespace CacheHistory

variable {bound : Nat} {history : List (CacheCall κ α)}

/-- An entry has a key, and the value that was computed at its last miss. -/
def Stands (bound : Nat) (history : List (CacheCall κ α)) (entry : κ × α) (key : κ) : Prop :=
  SameKey entry.1 key ∧
    ((key == key) = true → lastMiss? bound key history = some (.ok entry.2))

namespace Stands

variable {entry : κ × α} {present : κ}

/-- An entry that equals a key has the value that was computed for the key. -/
theorem lastMiss
    (stands : Stands bound history entry present)
    {key : κ}
    (same : (entry.1 == key) = true) :
    lastMiss? bound key history = some (.ok entry.2) := by
  rw [stands.1.beq_eq] at same
  rw [← lastMiss?_congr same]
  exact stands.2 (PartialEquivBEq.trans same (PartialEquivBEq.symm same))

omit [PartialEquivBEq κ] in
/-- An entry goes on standing for a key that is not missed. -/
theorem request
    (stands : Stands bound history entry present)
    {key : κ}
    (notMissed : (key == present) = true → (kept bound history).contains key = true)
    (factory : Unit → Outcome α) :
    Stands bound (.request key factory :: history) entry present := by
  refine ⟨stands.1, fun comparable => ?_⟩
  rw [lastMiss?_of_other notMissed]
  exact stands.2 comparable

end Stands

/-- A cache has the entries that the history asks for, the one requested last at the end. -/
structure ShownBy (bound : Nat) (history : List (CacheCall κ α))
    (cache : SnapshotCache κ α) : Prop where
  sameBound : cache.bound = bound
  entries : Forall₂ (Stands bound history) cache.entries.reverse (kept bound history)

namespace ShownBy

variable {cache : SnapshotCache κ α}

omit [PartialEquivBEq κ] in
/-- Every entry stands for a key that is kept. -/
theorem exists_of_mem
    (shown : ShownBy bound history cache)
    {entry : κ × α}
    (member : entry ∈ cache.entries) :
    ∃ key ∈ kept bound history, Stands bound history entry key := by
  obtain ⟨place, inRange, rfl⟩ := mem_iff_getElem.mp (mem_reverse.mpr member)
  have inKept : place < (kept bound history).length :=
    shown.entries.length_eq ▸ inRange
  exact ⟨_, getElem_mem inKept, shown.entries.get inRange inKept⟩

omit [PartialEquivBEq κ] in
/-- Every key that is kept has an entry. -/
theorem exists_of_mem_kept
    (shown : ShownBy bound history cache)
    {key : κ}
    (member : key ∈ kept bound history) :
    ∃ entry ∈ cache.entries, Stands bound history entry key := by
  obtain ⟨place, inRange, rfl⟩ := mem_iff_getElem.mp member
  have inEntries : place < cache.entries.reverse.length :=
    shown.entries.length_eq.symm ▸ inRange
  exact ⟨_, mem_reverse.mp (getElem_mem inEntries), shown.entries.get inEntries inRange⟩

/-- The keys of the entries are as far apart as the keys that they stand for. -/
theorem apart_entries
    (shown : ShownBy bound history cache) :
    Apart (cache.entries.map Prod.fst) := by
  have alike :
      Forall₂ (fun entry key => ∀ other, (entry.1 == other) = (key == other))
        cache.entries.reverse (kept bound history) :=
    shown.entries.imp fun _ _ stands => stands.1.beq_eq
  have apart : Apart (kept bound history) := apart_latest
  have reversed : Apart (cache.entries.reverse.map Prod.fst) := by
    rw [Apart, pairwise_iff_getElem] at apart ⊢
    intro first second firstRange secondRange earlier
    rw [length_map] at firstRange secondRange
    have firstInKept := alike.length_eq ▸ firstRange
    have secondInKept := alike.length_eq ▸ secondRange
    have firstAlike := alike.get firstRange firstInKept
    have secondAlike := alike.get secondRange secondInKept
    simp only [get_eq_getElem] at firstAlike secondAlike
    rw [getElem_map, getElem_map, firstAlike, beq_comm, secondAlike, beq_comm]
    exact apart first second firstInKept secondInKept earlier
  rw [map_reverse, Apart, pairwise_reverse] at reversed
  exact reversed.imp fun different => (beq_comm _ _).trans different

/-- A request for a key that is kept answers the value of its last miss, whatever the factory is. -/
theorem getOrCompute_of_contains
    (shown : ShownBy bound history cache)
    {key : κ}
    (among : (kept bound history).contains key = true) :
    ∃ entry,
      cache.entries.find? (fun entry => entry.1 == key) = some entry ∧
        (entry.1 == key) = true ∧
        lastMiss? bound key history = some (.ok entry.2) ∧
        ∀ factory, cache.getOrCompute key factory = (.ok entry.2, cache.touch key) := by
  obtain ⟨present, member, same⟩ := contains_iff.mp among
  obtain ⟨entry, isEntry, stands⟩ := shown.exists_of_mem_kept member
  have isSome : (cache.entries.find? fun entry => entry.1 == key).isSome = true :=
    find?_isSome.mpr ⟨entry, isEntry, by rw [stands.1.beq_eq, same]⟩
  obtain ⟨found, isFound⟩ := Option.isSome_iff_exists.mp isSome
  have foundSame : (found.1 == key) = true := by
    simpa using find?_some isFound
  obtain ⟨_, _, foundStands⟩ := shown.exists_of_mem (mem_of_find?_eq_some isFound)
  refine ⟨found, isFound, foundSame, foundStands.lastMiss foundSame, fun factory => ?_⟩
  rw [SnapshotCache.getOrCompute, SnapshotCache.find?, isFound]
  rfl

/-- No entry has a key that is not kept. -/
theorem ne_of_not_contains
    (shown : ShownBy bound history cache)
    {key : κ}
    (notAmong : (kept bound history).contains key = false) :
    ∀ entry ∈ cache.entries, (entry.1 == key) = false := by
  intro entry member
  obtain ⟨present, isKept, stands⟩ := shown.exists_of_mem member
  rw [stands.1.beq_eq]
  exact not_contains_iff.mp notAmong present isKept

/-- A request for a key that is not kept comes to its factory. -/
theorem getOrCompute_of_not_contains
    (shown : ShownBy bound history cache)
    {key : κ}
    (notAmong : (kept bound history).contains key = false)
    (factory : Unit → Outcome α) :
    cache.getOrCompute key factory =
      match factory () with
      | .ok value => (.ok value, cache.store key value)
      | .error fault => (.error fault, cache) := by
  have notFound : cache.entries.find? (fun entry => entry.1 == key) = none := by
    rw [find?_eq_none]
    intro entry member
    simp [shown.ne_of_not_contains notAmong entry member]
  rw [SnapshotCache.getOrCompute, SnapshotCache.find?, notFound]
  rfl

/-- All entries go on standing for their keys when another key is requested. -/
theorem entries_of_miss
    (shown : ShownBy bound history cache)
    {key : κ}
    (notAmong : (kept bound history).contains key = false)
    (factory : Unit → Outcome α) :
    Forall₂ (Stands bound (.request key factory :: history))
      cache.entries.reverse (kept bound history) := by
  have different : ∀ entry ∈ cache.entries.reverse, (entry.1 == key) = false :=
    fun entry member => shown.ne_of_not_contains notAmong entry (mem_reverse.mp member)
  refine Forall₂.imp ?_ ((forall₂_and_left _ _).mpr ⟨different, shown.entries⟩)
  rintro entry present ⟨entryDifferent, stands⟩
  refine stands.request (fun same => ?_) factory
  rw [stands.1.beq_eq, beq_comm, same] at entryDifferent
  exact absurd entryDifferent (by decide)

/-! ## One call -/

/-- A request for a key that is kept makes its entry the latest one. -/
theorem of_hit
    (shown : ShownBy bound history cache)
    {key : κ}
    (among : (kept bound history).contains key = true)
    (factory : Unit → Outcome α) :
    ShownBy bound (.request key factory :: history) (cache.touch key) := by
  obtain ⟨entry, found, same, isLastMiss, _⟩ := shown.getOrCompute_of_contains among
  refine ⟨shown.sameBound, ?_⟩
  rw [SnapshotCache.reverse_entries_touch shown.apart_entries found, kept_of_hit among]
  have stillStands {entry : κ × α} {present : κ} (stands : Stands bound history entry present) :
      Stands bound (.request key factory :: history) entry present :=
    stands.request (fun _ => among) factory
  refine Forall₂.cons (stillStands ⟨.inr same, fun _ => isLastMiss⟩) ?_
  refine Forall₂.imp (fun _ _ => stillStands) (rel_filter ?_ shown.entries)
  intro other present stands
  dsimp only
  rw [stands.1.beq_eq]

/-- A request for another key keeps what is computed as the latest entry. -/
theorem of_miss
    (shown : ShownBy bound history cache)
    {key : κ}
    (notAmong : (kept bound history).contains key = false)
    {factory : Unit → Outcome α}
    {value : α}
    (computed : factory () = .ok value) :
    ShownBy bound (.request key factory :: history) (cache.store key value) := by
  have fits : cache.entries.length ≤ bound := by
    rw [← length_reverse, shown.entries.length_eq]
    exact length_take_le _ _
  refine ⟨shown.sameBound, ?_⟩
  rw [SnapshotCache.reverse_entries_store shown.sameBound fits, kept_of_miss notAmong computed]
  have isNew : Stands bound (.request key factory :: history) (key, value) key := by
    refine ⟨.inl rfl, fun comparable => ?_⟩
    rw [lastMiss?, comparable, notAmong, computed]
    rfl
  exact forall₂_take bound (Forall₂.cons isNew (shown.entries_of_miss notAmong factory))

/-- A request that fails leaves the cache as it is. -/
theorem of_failure
    (shown : ShownBy bound history cache)
    {key : κ}
    (notAmong : (kept bound history).contains key = false)
    {factory : Unit → Outcome α}
    {fault : Fault}
    (failed : factory () = .error fault) :
    ShownBy bound (.request key factory :: history) cache := by
  refine ⟨shown.sameBound, ?_⟩
  rw [kept_of_failure notAmong failed]
  exact shown.entries_of_miss notAmong factory

/-- After every call the cache has the entries that the longer history asks for. -/
theorem afterCall
    (shown : ShownBy bound history cache)
    (call : CacheCall κ α) :
    ShownBy bound (call :: history) (cache.afterCall call) := by
  cases call with
  | clear =>
      refine ⟨shown.sameBound, ?_⟩
      rw [kept_clear]
      exact Forall₂.nil
  | request key factory =>
      rw [SnapshotCache.afterCall]
      cases among : (kept bound history).contains key with
      | true =>
          obtain ⟨_, _, _, _, answers⟩ := shown.getOrCompute_of_contains among
          rw [answers]
          exact shown.of_hit among factory
      | false =>
          rw [shown.getOrCompute_of_not_contains among]
          cases computed : factory () with
          | ok value =>
              exact shown.of_miss among computed
          | error fault =>
              exact shown.of_failure among computed

end ShownBy

/-! ## Runs -/

/-- Whatever is called on a new cache, it has the entries that the history asks for. -/
theorem shownBy_after
    (bound : Nat)
    (calls : List (CacheCall κ α)) :
    ShownBy bound calls.reverse
      ((SnapshotCache.empty bound : SnapshotCache κ α).after calls) := by
  induction calls using reverseRecOn with
  | nil =>
      refine ⟨rfl, ?_⟩
      rw [reverse_nil, kept_nil]
      exact Forall₂.nil
  | append_singleton earlier call inductionHypothesis =>
      rw [SnapshotCache.after, foldl_append, reverse_append]
      exact inductionHypothesis.afterCall call

end CacheHistory

/--
After every sequence of calls on a cache for a positive number of entries, the entries are those of
the distinct keys that were requested last since it was cleared and answered, no more than fit, in
the order of their last requests. A request for one of these keys answers the value that was
computed at the last miss of the key, whatever its factory would give; a request for any other key
answers what its factory gives; and a request that fails leaves the cache as it is.
-/
theorem holds_latest_requests
    (settings : Settings)
    (bound : Nat)
    (positive : 0 < bound)
    (calls : List (CacheCall κ α)) :
    let cache : SnapshotCache κ α :=
      (SnapshotCache.empty (SnapshotCache.boundOf settings (some bound))).after calls
    let keys := kept bound calls.reverse
    keys.length ≤ bound ∧
    Forall₂ (fun entry key => SameKey entry.1 key) cache.entries keys.reverse ∧
    ∀ key,
      (keys.contains key = true →
        ∃ value,
          lastMiss? bound key calls.reverse = some (.ok value) ∧
            ∀ factory, cache.getOrCompute key factory = (.ok value, cache.touch key)) ∧
      (keys.contains key = false →
        ∀ factory, (cache.getOrCompute key factory).1 = factory ()) ∧
      ∀ factory fault,
        (cache.getOrCompute key factory).1 = .error fault →
          (cache.getOrCompute key factory).2 = cache := by
  have isBound : SnapshotCache.boundOf settings (some bound) = bound :=
    if_neg (Int.natCast_ne_zero.mpr positive.ne')
  rw [isBound]
  intro cache keys
  have shown : ShownBy bound calls.reverse cache := shownBy_after bound calls
  refine ⟨length_take_le _ _, ?_, fun key => ⟨fun among => ?_, fun notAmong => ?_, ?_⟩⟩
  · rw [← forall₂_reverse_iff, reverse_reverse]
    exact shown.entries.imp fun _ _ stands => stands.1
  · obtain ⟨entry, _, _, isLastMiss, answers⟩ := shown.getOrCompute_of_contains among
    exact ⟨entry.2, isLastMiss, answers⟩
  · intro factory
    rw [shown.getOrCompute_of_not_contains notAmong]
    cases factory () <;> rfl
  · intro factory fault failed
    cases among : keys.contains key with
    | true =>
        obtain ⟨_, _, _, _, answers⟩ := shown.getOrCompute_of_contains among
        rw [answers] at failed
        exact nomatch failed
    | false =>
        rw [shown.getOrCompute_of_not_contains among] at failed ⊢
        cases computed : factory () with
        | ok value =>
            rw [computed] at failed
            exact nomatch failed
        | error cause =>
            rfl

/-- A key with one version and no parameter. -/
def RequestKey.named (operation : String) (version : Cell) : RequestKey where
  operation
  versions := [version]
  parameter := .single .null

namespace SnapshotCache.Sample

/-- A run that requests the first of two keys again before a third one. -/
def reusingFirst : List (CacheCall RequestKey String) :=
  ["a", "b", "a", "c"].map fun name =>
    .request (.named name (.int 1)) fun _ => .ok s!"{name} computed"

/--
In a cache for two, the key that was requested again stays and the other one drops out: it is
computed anew, while the first one answers what it was computed as, also when its version is written
as a binary64 number.
-/
theorem entries_of_reusingFirst :
    0 < 2 ∧
      let cache : SnapshotCache RequestKey String :=
        (SnapshotCache.empty (SnapshotCache.boundOf {} (some 2))).after reusingFirst
      Forall₂ (fun entry key => SameKey entry.1 key) cache.entries
          [.named "a" (.int 1), .named "c" (.int 1)] ∧
        (∀ factory,
          (cache.getOrCompute (.named "a" (.float (.ofNat 1))) factory).1 = .ok "a computed") ∧
        ∀ factory, (cache.getOrCompute (.named "b" (.int 1)) factory).1 = factory () := by
  refine ⟨by decide, ?_⟩
  obtain ⟨_, entries, answers⟩ :=
    holds_latest_requests {} 2 (by decide) reusingFirst
  refine ⟨entries, fun factory => ?_, (answers _).2.1 (by decide +kernel)⟩
  obtain ⟨value, isLastMiss, answered⟩ :=
    (answers (.named "a" (.float (.ofNat 1)))).1 (by decide +kernel)
  have isValue :
      lastMiss? 2 (.named "a" (.float (.ofNat 1))) reusingFirst.reverse =
        some (.ok "a computed") := by
    rfl
  rw [isValue] at isLastMiss
  cases isLastMiss
  exact congrArg Prod.fst (answered factory)

end SnapshotCache.Sample

end Tabular
