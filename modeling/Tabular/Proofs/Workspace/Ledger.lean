import Mathlib.Data.Set.Insert
import Tabular.Proofs.Assoc
import Tabular.Proofs.Filter.Text
import Tabular.Proofs.Workspace.Contents

namespace Tabular

/-!
# What is remembered is right

A ledger lists the snapshots that have been issued so far. It is no part of a session: it says what
the versions in the keys of caches and memos stand for. A session is sound when its workspace holds
issued snapshots only and when everything that it remembers is what its key asks for, computed from
issued snapshots. A ledger only ever grows, and what is right stays right for a wider ledger.
-/

/-- The snapshots that have been issued. -/
abbrev Ledger := Set Snapshot

namespace Ledger

/-- Versions are drawn below a bound and never twice, and a description belongs to one origin. -/
structure Consistent (ledger : Ledger) (bound : Nat) : Prop where
  version_lt : ∀ snapshot ∈ ledger, snapshot.version < bound
  origin_lt : ∀ snapshot ∈ ledger, snapshot.origin < bound
  eq_of_version : ∀ snapshot ∈ ledger, ∀ other ∈ ledger,
    snapshot.version = other.version → snapshot = other
  typeSource_eq : ∀ snapshot ∈ ledger, ∀ other ∈ ledger,
    snapshot.origin = other.origin →
      snapshot.table.typeSource = other.table.typeSource
  kindSource_eq : ∀ snapshot ∈ ledger, ∀ other ∈ ledger,
    snapshot.origin = other.origin →
      snapshot.table.kindSource = other.table.kindSource

/-- The snapshot has been issued and shows the table. -/
structure Shows (ledger : Ledger) (snapshot : Snapshot) (table : Table) : Prop where
  issued : snapshot ∈ ledger
  table_eq : snapshot.table = table

/-- The tables of a workspace have been issued under their names. -/
structure Issued (ledger : Ledger) (tables : Assoc Snapshot) : Prop where
  mem : ∀ {name snapshot}, tables.find? name = some snapshot → snapshot ∈ ledger
  name_eq : ∀ {name snapshot}, tables.find? name = some snapshot →
    snapshot.table.name = some name

theorem Consistent.empty
    (bound : Nat) :
    Consistent ∅ bound where
  version_lt := nofun
  origin_lt := nofun
  eq_of_version := nofun
  typeSource_eq := nofun
  kindSource_eq := nofun

/-- A new snapshot can be issued under the next version, described anew or as one before. -/
theorem Consistent.insert
    {ledger : Ledger}
    {bound : Nat}
    (consistent : ledger.Consistent bound)
    {issued : Snapshot}
    (version_eq : issued.version = bound)
    (origin_le : issued.origin ≤ bound)
    (describedAlike : ∀ other ∈ ledger, issued.origin = other.origin →
      issued.table.typeSource = other.table.typeSource ∧
        issued.table.kindSource = other.table.kindSource) :
    Consistent (Set.insert issued ledger) (bound + 1) where
  version_lt := by
    rintro snapshot (rfl | member)
    · omega
    · exact Nat.lt_succ_of_lt (consistent.version_lt snapshot member)
  origin_lt := by
    rintro snapshot (rfl | member)
    · omega
    · exact Nat.lt_succ_of_lt (consistent.origin_lt snapshot member)
  eq_of_version := by
    rintro snapshot (rfl | member) other (rfl | otherMember) same
    · rfl
    · have := consistent.version_lt other otherMember
      omega
    · have := consistent.version_lt snapshot member
      omega
    · exact consistent.eq_of_version snapshot member other otherMember same
  typeSource_eq := by
    rintro snapshot (rfl | member) other (rfl | otherMember) same
    · rfl
    · exact (describedAlike other otherMember same).1
    · exact (describedAlike snapshot member same.symm).1.symm
    · exact consistent.typeSource_eq snapshot member other otherMember same
  kindSource_eq := by
    rintro snapshot (rfl | member) other (rfl | otherMember) same
    · rfl
    · exact (describedAlike other otherMember same).2
    · exact (describedAlike snapshot member same.symm).2.symm
    · exact consistent.kindSource_eq snapshot member other otherMember same

/-- A table that is shown stays shown by a wider ledger. -/
theorem Shows.mono
    {ledger wider : Ledger}
    {snapshot : Snapshot}
    {table : Table}
    (shows : ledger.Shows snapshot table)
    (grows : ledger ⊆ wider) :
    wider.Shows snapshot table :=
  ⟨grows shows.issued, shows.table_eq⟩

namespace Issued

variable {ledger wider : Ledger} {tables : Assoc Snapshot}

theorem mono
    (issued : ledger.Issued tables)
    (grows : ledger ⊆ wider) :
    wider.Issued tables :=
  ⟨fun found => grows (issued.mem found), fun found => issued.name_eq found⟩

theorem empty :
    ledger.Issued .empty :=
  ⟨nofun, nofun⟩

theorem insert
    (issued : ledger.Issued tables)
    {name : String}
    {snapshot : Snapshot}
    (isIssued : snapshot ∈ ledger)
    (named : snapshot.table.name = some name) :
    ledger.Issued (tables.insert name snapshot) := by
  constructor
  · intro other found isFound
    rw [Assoc.find?_insert] at isFound
    split at isFound
    · cases isFound
      exact isIssued
    · exact issued.mem isFound
  · intro other found isFound
    rw [Assoc.find?_insert] at isFound
    split at isFound
    · next same =>
        cases isFound
        rw [named, same]
    · exact issued.name_eq isFound

theorem erase
    (issued : ledger.Issued tables)
    (name : String) :
    ledger.Issued (tables.erase name) := by
  have before {other : String} {snapshot : Snapshot}
      (isFound : (tables.erase name).find? other = some snapshot) :
      tables.find? other = some snapshot := by
    rw [Assoc.find?_erase] at isFound
    split at isFound
    · exact absurd isFound nofun
    · exact isFound
  exact
    ⟨fun isFound => issued.mem (before isFound),
      fun isFound => issued.name_eq (before isFound)⟩

/-- Issued tables are told by the versions of their snapshots. -/
theorem eq_of_versions
    {bound : Nat}
    (consistent : ledger.Consistent bound)
    (issued : ledger.Issued tables)
    {others : Assoc Snapshot}
    (othersIssued : ledger.Issued others)
    (same :
      tables.values.map Snapshot.version = others.values.map Snapshot.version) :
    tables = others := by
  have entry_of_mem {named : Assoc Snapshot} (namedIssued : ledger.Issued named)
      {entry : String × Snapshot} (member : entry ∈ named.entries) :
      entry.2 ∈ ledger ∧ entry.2.table.name = some entry.1 :=
    have found := Assoc.find?_eq_some_iff.mpr member
    ⟨namedIssued.mem found, namedIssued.name_eq found⟩
  apply Assoc.ext_entries
  rw [Assoc.values, Assoc.values, List.map_map, List.map_map] at same
  refine List.ext_getElem (by simpa using congrArg List.length same) ?_
  intro index below otherBelow
  have own := entry_of_mem issued (List.getElem_mem below)
  have other := entry_of_mem othersIssued (List.getElem_mem otherBelow)
  have sameVersion :
      tables.entries[index].2.version = others.entries[index].2.version := by
    have atIndex := congrArg (fun versions => versions[index]?) same
    simpa [List.getElem?_eq_getElem, below, otherBelow] using atIndex
  have sameSnapshot :=
    consistent.eq_of_version _ own.1 _ other.1 sameVersion
  refine Prod.ext ?_ sameSnapshot
  rw [← Option.some.injEq, ← own.2, ← other.2, sameSnapshot]

end Issued

end Ledger

/-! ## Answers that are remembered -/

namespace MemoKey

/-- The key asks about the snapshot. -/
def IsAbout (snapshot : Snapshot) : MemoKey → Prop
  | .types origin => snapshot.origin = origin
  | .kinds origin => snapshot.origin = origin
  | .quality version => snapshot.version = version
  | .stats version _ => snapshot.version = version
  | .uniqueValues version _ => snapshot.version = version
  | .columnSums version => snapshot.version = version

/-- The answer to the question of a key about a table. -/
def afresh (settings : Settings) (table : Table) : (key : MemoKey) → Outcome key.Value
  | .types _ => table.types settings
  | .kinds _ => table.smartTypes settings
  | .quality _ => analyzeQuality settings none table
  | .stats _ column => table.columnStats column
  | .uniqueValues _ column => .ok (table.allUniqueValues column)
  | .columnSums _ => table.columnSums settings

/-- The remembered answer to a key is the one about an issued snapshot. -/
def IsRecorded (settings : Settings) (ledger : Ledger) (key : MemoKey) (value : key.Value) :
    Prop :=
  ∃ snapshot ∈ ledger, key.IsAbout snapshot ∧
    key.afresh settings snapshot.table = .ok value

/--
A key asks for the same about all snapshots that it asks about, as a derived snapshot shares the
descriptions of its origin.
-/
theorem afresh_eq_of_isAbout
    (settings : Settings)
    {ledger : Ledger}
    {bound : Nat}
    (consistent : ledger.Consistent bound)
    {snapshot other : Snapshot}
    (issued : snapshot ∈ ledger)
    (otherIssued : other ∈ ledger)
    {key : MemoKey}
    (isAbout : key.IsAbout snapshot)
    (isAboutOther : key.IsAbout other) :
    key.afresh settings snapshot.table = key.afresh settings other.table := by
  cases key with
  | types origin =>
      have same := consistent.typeSource_eq _ issued _ otherIssued
        (isAbout.trans isAboutOther.symm)
      rw [afresh, afresh, Table.types, Table.types, same]
  | kinds origin =>
      have same := consistent.kindSource_eq _ issued _ otherIssued
        (isAbout.trans isAboutOther.symm)
      rw [afresh, afresh, Table.smartTypes, Table.smartTypes, same]
  | quality version =>
      rw [consistent.eq_of_version _ issued _ otherIssued
        (isAbout.trans isAboutOther.symm)]
  | stats version column =>
      rw [consistent.eq_of_version _ issued _ otherIssued
        (isAbout.trans isAboutOther.symm)]
  | uniqueValues version column =>
      rw [consistent.eq_of_version _ issued _ otherIssued
        (isAbout.trans isAboutOther.symm)]
  | columnSums version =>
      rw [consistent.eq_of_version _ issued _ otherIssued
        (isAbout.trans isAboutOther.symm)]

theorem IsRecorded.mono
    {settings : Settings}
    {ledger wider : Ledger}
    {key : MemoKey}
    {value : key.Value}
    (recorded : key.IsRecorded settings ledger value)
    (grows : ledger ⊆ wider) :
    key.IsRecorded settings wider value := by
  obtain ⟨snapshot, issued, isAbout, computed⟩ := recorded
  exact ⟨snapshot, grows issued, isAbout, computed⟩

end MemoKey

/-! ## Views that are cached -/

namespace ViewKey

/-- The cached view of a key is what the key asks for, of issued snapshots. -/
def IsRecorded (settings : Settings) (ledger : Ledger) : ViewKey → View → Prop
  | .joined versions specs aliases, .table snapshot =>
      snapshot ∈ ledger ∧
        ∃ tables names, ledger.Issued tables ∧
          tables.values.map Snapshot.version = versions ∧
            Workspace.sortedAliases names = aliases ∧
              Joined.table <$>
                  performJoin settings
                    { tables := tables.mapValues fun _ snapshot => snapshot.table
                      aliases := names }
                    specs =
                .ok snapshot.table
  | .filtered version text caseSensitive, .table snapshot =>
      snapshot ∈ ledger ∧
        ∃ source ∈ ledger, source.version = version ∧
          ∃ node : FilterNode, node.IsPlain ∧ node.toJson.written = text ∧
            Prod.fst <$> filterRows caseSensitive node source.table =
              .ok snapshot.table
  | .arranged version search caseSensitive sortBy direction, .table snapshot =>
      snapshot ∈ ledger ∧
        ∃ source ∈ ledger, source.version = version ∧
          Workspace.Arrangement.apply
              { search, caseSensitive, sortBy, direction } source.table =
            .ok snapshot.table
  | .pivot version config, .pivot result =>
      ∃ source ∈ ledger, source.version = version ∧
        createPivot settings config source.table = .ok result
  | _, _ => False

theorem IsRecorded.mono
    {settings : Settings}
    {ledger wider : Ledger}
    {key : ViewKey}
    {view : View}
    (recorded : key.IsRecorded settings ledger view)
    (grows : ledger ⊆ wider) :
    key.IsRecorded settings wider view := by
  cases key with
  | joined versions specs aliases =>
      cases view with
      | table snapshot =>
          obtain ⟨issued, tables, names, tablesIssued, right⟩ := recorded
          exact ⟨grows issued, tables, names, tablesIssued.mono grows, right⟩
      | pivot result =>
          exact recorded
  | filtered version text caseSensitive =>
      cases view with
      | table snapshot =>
          obtain ⟨issued, source, sourceIssued, right⟩ := recorded
          exact ⟨grows issued, source, grows sourceIssued, right⟩
      | pivot result =>
          exact recorded
  | arranged version search caseSensitive sortBy direction =>
      cases view with
      | table snapshot =>
          obtain ⟨issued, source, sourceIssued, right⟩ := recorded
          exact ⟨grows issued, source, grows sourceIssued, right⟩
      | pivot result =>
          exact recorded
  | pivot version config =>
      cases view with
      | table snapshot =>
          exact recorded
      | pivot result =>
          obtain ⟨source, sourceIssued, right⟩ := recorded
          exact ⟨source, grows sourceIssued, right⟩

end ViewKey

/-! ## Sound sessions -/

/-- The tables of the workspace are issued, and its filter is told by its text. -/
structure Workspace.Held (ledger : Ledger) (workspace : Workspace) : Prop where
  tables : ledger.Issued workspace.tables
  filter : workspace.filter.IsPlain

/-- Everything that the workspace remembers is right. -/
structure Workspace.Remembers (settings : Settings) (ledger : Ledger) (workspace : Workspace) :
    Prop where
  cache : ∀ {key view}, (key, view) ∈ workspace.cache.entries →
    key.IsRecorded settings ledger view
  memo : ∀ {key value}, workspace.memo key = some value →
    key.IsRecorded settings ledger value

/-- The session holds what has been issued, and remembers nothing wrong. -/
structure Session.Sound (settings : Settings) (ledger : Ledger) (session : Session) : Prop where
  consistent : ledger.Consistent session.supply.snapshots
  held : session.workspace.Held ledger
  remembers : session.workspace.Remembers settings ledger

theorem Workspace.Remembers.mono
    {settings : Settings}
    {ledger wider : Ledger}
    {workspace : Workspace}
    (remembers : workspace.Remembers settings ledger)
    (grows : ledger ⊆ wider) :
    workspace.Remembers settings wider :=
  ⟨fun member => (remembers.cache member).mono grows,
    fun known => (remembers.memo known).mono grows⟩

theorem Workspace.Held.mono
    {ledger wider : Ledger}
    {workspace : Workspace}
    (held : workspace.Held ledger)
    (grows : ledger ⊆ wider) :
    workspace.Held wider :=
  ⟨held.tables.mono grows, held.filter⟩

end Tabular
