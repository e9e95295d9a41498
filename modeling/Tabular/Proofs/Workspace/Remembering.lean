import Tabular.Proofs.Workspace.Following

namespace Tabular

/-!
# Remembering follows computing

New snapshots widen the ledger. What is taken from the memo or the cache is right since the session
is sound, and what has been computed may be remembered since it is what its key asks for. So an
answer follows the same plain computation, whether or not it is remembered.
-/

namespace SnapshotCache

variable {κ α : Type} [BEq κ] [LawfulBEq κ]

theorem mem_of_find?_eq_some
    {cache : SnapshotCache κ α}
    {key : κ}
    {value : α}
    (found : cache.find? key = some value) :
    (key, value) ∈ cache.entries := by
  obtain ⟨⟨present, _⟩, isFirst, rfl⟩ := Option.map_eq_some_iff.mp found
  have same : present = key := by
    simpa using List.find?_some isFirst
  rw [← same]
  exact List.mem_of_find?_eq_some isFirst

omit [LawfulBEq κ] in
/-- A request for a key adds no entries. -/
theorem mem_of_mem_touch
    {cache : SnapshotCache κ α}
    {key : κ}
    {entry : κ × α}
    (member : entry ∈ (cache.touch key).entries) :
    entry ∈ cache.entries := by
  rw [touch, moveToEnd] at member
  split at member
  · next isFirst =>
      rcases List.mem_append.mp member with earlier | isLast
      · exact List.mem_of_mem_eraseP earlier
      · rw [List.mem_singleton.mp isLast]
        exact List.mem_of_find?_eq_some isFirst
  · exact member

omit [BEq κ] [LawfulBEq κ] in
/-- Storing a value adds one entry at most, and eviction none. -/
theorem eq_or_mem_of_mem_store
    {cache : SnapshotCache κ α}
    {key : κ}
    {value : α}
    {entry : κ × α}
    (member : entry ∈ (cache.store key value).entries) :
    entry = (key, value) ∨ entry ∈ cache.entries := by
  have isEntry : entry ∈ cache.entries ++ [(key, value)] := by
    rw [store] at member
    dsimp only at member
    split at member
    · exact List.mem_of_mem_drop member
    · exact member
  rcases List.mem_append.mp isEntry with earlier | isLast
  · exact .inr earlier
  · exact .inl (List.mem_singleton.mp isLast)

end SnapshotCache

namespace Workspace.Remembers

variable {settings : Settings} {ledger : Ledger} {workspace : Workspace}

/-- A right answer may be remembered. -/
theorem remember
    (remembers : workspace.Remembers settings ledger)
    {key : MemoKey}
    {value : key.Value}
    (recorded : key.IsRecorded settings ledger value) :
    Remembers settings ledger
      { workspace with memo := workspace.memo.remember key value } := by
  refine ⟨remembers.cache, ?_⟩
  intro asked answer known
  by_cases same : key = asked
  · subst same
    simp only [Memo.remember, dite_true] at known
    cases known
    exact recorded
  · simp only [Memo.remember, dif_neg same] at known
    exact remembers.memo known

/-- A request for a key that is cached keeps what is right. -/
theorem touch
    (remembers : workspace.Remembers settings ledger)
    (key : ViewKey) :
    Remembers settings ledger
      { workspace with cache := workspace.cache.touch key } :=
  ⟨fun member => remembers.cache (SnapshotCache.mem_of_mem_touch member),
    remembers.memo⟩

/-- A right view may be cached, whatever is dropped for it. -/
theorem store
    (remembers : workspace.Remembers settings ledger)
    {key : ViewKey}
    {view : View}
    (recorded : key.IsRecorded settings ledger view) :
    Remembers settings ledger
      { workspace with cache := workspace.cache.store key view } := by
  refine ⟨fun member => ?_, remembers.memo⟩
  rcases SnapshotCache.eq_or_mem_of_mem_store member with isNew | earlier
  · obtain ⟨rfl, rfl⟩ := Prod.mk.inj isNew
    exact recorded
  · exact remembers.cache earlier

end Workspace.Remembers

/-- A new snapshot is issued with the next version. -/
theorem Session.Sound.issue
    {settings : Settings}
    {ledger : Ledger}
    {session : Session}
    (sound : session.Sound settings ledger)
    (issued : Snapshot)
    (version_eq : issued.version = session.supply.snapshots)
    (origin_le : issued.origin ≤ session.supply.snapshots)
    (describedAlike : ∀ other ∈ ledger, issued.origin = other.origin →
      issued.table.typeSource = other.table.typeSource ∧
        issued.table.kindSource = other.table.kindSource) :
    Session.Sound settings (Set.insert issued ledger)
      { session with
        supply :=
          { session.supply with
            snapshots := session.supply.snapshots + 1 } } where
  consistent := sound.consistent.insert version_eq origin_le describedAlike
  held := sound.held.mono (Set.subset_insert issued ledger)
  remembers := sound.remembers.mono (Set.subset_insert issued ledger)

namespace Action.Follows

variable {α β : Type} {settings : Settings} {ledger : Ledger} {contents : Contents}

/-! ## New snapshots -/

theorem newSnapshot
    (table : Table) :
    (Action.newSnapshot table).Tells settings ledger contents (.ok table)
      Ledger.Shows := by
  intro wider _ session sound hasContents
  have issued :=
    sound.issue
      ⟨session.supply.snapshots, session.supply.snapshots, table⟩
      rfl le_rfl (by
        intro other isIssued sameOrigin
        have below := sound.consistent.origin_lt other isIssued
        dsimp only at sameOrigin
        omega)
  exact
    ⟨_, Set.subset_insert _ _, issued, rfl,
      .answered ⟨Set.mem_insert _ _, rfl⟩ hasContents⟩

/-- A derived snapshot shows its table, which is described as the one it comes from. -/
theorem derivedSnapshot
    {source : Snapshot}
    (sourceIssued : source ∈ ledger)
    {table : Table}
    (sameTypes : table.typeSource = source.table.typeSource)
    (sameKinds : table.kindSource = source.table.kindSource) :
    (Action.derivedSnapshot source table).Tells settings ledger contents
      (.ok table) Ledger.Shows := by
  intro wider grows session sound hasContents
  have issued :=
    sound.issue ⟨session.supply.snapshots, source.origin, table⟩ rfl
      (sound.consistent.origin_lt source (grows sourceIssued)).le (by
        intro other isIssued sameOrigin
        exact
          ⟨sameTypes.trans
              (sound.consistent.typeSource_eq source (grows sourceIssued) other
                isIssued sameOrigin),
            sameKinds.trans
              (sound.consistent.kindSource_eq source (grows sourceIssued) other
                isIssued sameOrigin)⟩)
  exact
    ⟨_, Set.subset_insert _ _, issued, rfl,
      .answered ⟨Set.mem_insert _ _, rfl⟩ hasContents⟩

/-! ## The memo -/

/-- A remembered answer about a snapshot follows the answer computed afresh. -/
theorem remembered
    {snapshot : Snapshot}
    (issued : snapshot ∈ ledger)
    (key : MemoKey)
    (isAbout : key.IsAbout snapshot)
    {compute : Action key.Value}
    (computes : compute.Tells settings ledger contents
      (key.afresh settings snapshot.table) Same) :
    (Action.remembered key compute).Tells settings ledger contents
      (key.afresh settings snapshot.table) Same := by
  intro wider grows session sound hasContents
  rw [Action.remembered, perform_bind_of_ok (perform_workspace session)]
  split
  · next value known =>
      obtain ⟨other, otherIssued, isAboutOther, computed⟩ :=
        sound.remembers.memo known
      rw [key.afresh_eq_of_isAbout settings sound.consistent (grows issued)
        otherIssued isAbout isAboutOther, computed]
      exact ⟨wider, subset_rfl, sound, rfl, .answered rfl hasContents⟩
  · obtain ⟨final, growsOn, soundAfter, sameNodes, settled⟩ :=
      computes wider grows session sound hasContents
    generalize plainIs : key.afresh settings snapshot.table = plain at settled ⊢
    rcases performed : compute.perform session with ⟨outcome, after⟩
    rw [performed] at soundAfter sameNodes settled
    cases settled with
    | answered isRelated unchanged =>
        cases isRelated
        rw [perform_bind_of_ok performed]
        have recorded : key.IsRecorded settings final _ :=
          ⟨snapshot, growsOn (grows issued), isAbout, plainIs⟩
        exact
          ⟨final, growsOn,
            ⟨soundAfter.consistent, ⟨soundAfter.held.tables, soundAfter.held.filter⟩,
              soundAfter.remembers.remember recorded⟩,
            sameNodes, .answered rfl unchanged⟩
    | failed unchanged =>
        rw [perform_bind_of_error performed]
        exact ⟨final, growsOn, soundAfter, sameNodes, .failed unchanged⟩

theorem types
    {snapshot : Snapshot}
    (issued : snapshot ∈ ledger) :
    (Action.types settings snapshot).Tells settings ledger contents
      (snapshot.table.types settings) Same := by
  rw [Action.types]
  split
  · next map isGiven =>
      rw [Table.types, isGiven]
      exact pure fun _ _ => rfl
  · exact remembered issued (.types snapshot.origin) rfl (ofOutcome _)

theorem smartTypes
    {snapshot : Snapshot}
    (issued : snapshot ∈ ledger) :
    (Action.smartTypes settings snapshot).Tells settings ledger contents
      (snapshot.table.smartTypes settings) Same := by
  rw [Action.smartTypes]
  split
  · next map isGiven =>
      rw [Table.smartTypes, isGiven]
      exact pure fun _ _ => rfl
  · exact remembered issued (.kinds snapshot.origin) rfl (ofOutcome _)

/-! ## The cache -/

/--
A cached view follows what it is computed by, when the key is recorded with nothing but what the
plain computation answers.
-/
theorem cached
    {key : ViewKey}
    {compute : Action View}
    {plain : Outcome β}
    {related : Ledger → View → β → Prop}
    (right : ∀ wider bound, ledger ⊆ wider → wider.Consistent bound →
      ∀ view, key.IsRecorded settings wider view →
        ∃ answer, plain = .ok answer ∧ related wider view answer)
    (records : ∀ wider, ledger ⊆ wider →
      ∀ view answer, plain = .ok answer → related wider view answer →
        key.IsRecorded settings wider view)
    (computes : compute.Tells settings ledger contents plain related) :
    (Action.cached key compute).Tells settings ledger contents plain
      related := by
  intro wider grows session sound hasContents
  rw [Action.cached, perform_bind_of_ok (perform_workspace session)]
  split
  · next view found =>
      obtain ⟨answer, rfl, isRelated⟩ :=
        right wider _ grows sound.consistent view
          (sound.remembers.cache (SnapshotCache.mem_of_find?_eq_some found))
      exact
        ⟨wider, subset_rfl,
          ⟨sound.consistent, ⟨sound.held.tables, sound.held.filter⟩,
            sound.remembers.touch key⟩,
          rfl, .answered isRelated hasContents⟩
  · obtain ⟨final, growsOn, soundAfter, sameNodes, settled⟩ :=
      computes wider grows session sound hasContents
    rcases performed : compute.perform session with ⟨outcome, after⟩
    rw [performed] at soundAfter sameNodes settled
    cases settled with
    | answered isRelated unchanged =>
        rw [perform_bind_of_ok performed]
        have recorded :=
          records final (grows.trans growsOn) _ _ rfl isRelated
        exact
          ⟨final, growsOn,
            ⟨soundAfter.consistent, ⟨soundAfter.held.tables, soundAfter.held.filter⟩,
              soundAfter.remembers.store recorded⟩,
            sameNodes, .answered isRelated unchanged⟩
    | failed unchanged =>
        rw [perform_bind_of_error performed]
        exact ⟨final, growsOn, soundAfter, sameNodes, .failed unchanged⟩

/-- The view shows the table. -/
def ShowsTable (ledger : Ledger) (view : View) (table : Table) : Prop :=
  ∃ snapshot, view = .table snapshot ∧ ledger.Shows snapshot table

theorem cachedTable
    {key : ViewKey}
    {compute : Action Snapshot}
    {plain : Outcome Table}
    (right : ∀ wider bound, ledger ⊆ wider → wider.Consistent bound →
      ∀ view, key.IsRecorded settings wider view →
        ∃ table, plain = .ok table ∧ ShowsTable wider view table)
    (records : ∀ wider, ledger ⊆ wider →
      ∀ snapshot ∈ wider, plain = .ok snapshot.table →
        key.IsRecorded settings wider (.table snapshot))
    (computes : compute.Tells settings ledger contents plain Ledger.Shows) :
    (Action.cachedTable key compute).Tells settings ledger contents plain
      Ledger.Shows := by
  have computesView :
      (View.table <$> compute).Tells settings ledger contents plain
        ShowsTable :=
    computes.mapValue fun _ snapshot _ shows => ⟨snapshot, rfl, shows⟩
  have recordsView :
      ∀ wider, ledger ⊆ wider → ∀ view table, plain = .ok table →
        ShowsTable wider view table → key.IsRecorded settings wider view := by
    rintro wider grows _ _ plainIs ⟨snapshot, rfl, issued, rfl⟩
    exact records wider grows snapshot issued plainIs
  rw [Action.cachedTable, ← bind_pure plain]
  refine (cached right recordsView computesView).bind ?_
  rintro wider _ _ table ⟨snapshot, rfl, shows⟩
  exact pure fun _ grows => shows.mono grows

theorem cachedPivot
    {key : ViewKey}
    {compute : Action PivotResult}
    {plain : Outcome PivotResult}
    (right : ∀ wider bound, ledger ⊆ wider → wider.Consistent bound →
      ∀ view, key.IsRecorded settings wider view →
        ∃ result, plain = .ok result ∧ view = .pivot result)
    (records : ∀ wider, ledger ⊆ wider → ∀ result, plain = .ok result →
      key.IsRecorded settings wider (.pivot result))
    (computes : compute.Tells settings ledger contents plain Same) :
    (Action.cachedPivot key compute).Tells settings ledger contents plain
      Same := by
  have computesView :
      (View.pivot <$> compute).Tells settings ledger contents plain
        fun _ view result => view = .pivot result :=
    computes.mapValue fun _ _ _ same => congrArg View.pivot same
  have recordsView :
      ∀ wider, ledger ⊆ wider → ∀ view result, plain = .ok result →
        view = .pivot result → key.IsRecorded settings wider view := by
    rintro wider grows _ result plainIs rfl
    exact records wider grows result plainIs
  rw [Action.cachedPivot, ← bind_pure plain]
  refine (cached right recordsView computesView).bind ?_
  rintro wider _ _ result rfl
  exact pure fun _ _ => rfl

end Action.Follows

end Tabular
